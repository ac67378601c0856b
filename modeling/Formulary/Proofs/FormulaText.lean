/-
Formulary.Proofs.FormulaText — evaluating the text of a formula is evaluating the formula.

This is the round trip over the whole language of formulas, and puts the three steps together: what
is read of a rendering renders the same tokens (`Rendered.formulaSource`), it is cut into them
(`Token.ofText?_rendered`), and they are read as the formula (`Grammar.ofTokens?_tokens`). The
outcome is that of the tree, whether it is a value or a failure.

The conditions are the limits of the evaluator: on the length of the text, on the brackets that are
open at once, and on the digits of an integer.
-/
import Formulary.Proofs.Parsing
import Formulary.Proofs.Scanning

namespace Formulary

variable {extra : Strength → Formula Empty → Bool} {f : Formula Empty} {text : Text}

/-- No position of a formula is deeper than its text. -/
theorem depth_le_of_nestsWithin (h : Rendered Token.IsSpelled (f.tokens extra .whole) text)
    {limit : Nat} (hnesting : NestsWithin limit text) {before : List Token} {p : Position}
    (hbefore : before <+: f.tokens extra .whole) (hrun : (Position.mk true 0).run before = some p) :
    p.depth ≤ limit := by
  obtain ⟨b, hb, hcount⟩ := h.exists_prefix hbefore hrun
  have hb := hnesting b hb
  simp only at hcount
  omega

/-- The text of a formula stands for the expression that the formula is. -/
theorem ofText?_formulaSource (h : Rendered Token.IsSpelled (f.tokens extra .whole) text)
    (hnesting : NestsWithin Token.maxNesting text)
    (hshort : ∀ t ∈ f.tokens extra .whole, t.isShort) :
    Expr.ofText? (formulaSource text) = some (f.toExpr Empty.elim) := by
  obtain ⟨hsource, hcaret, hhead⟩ := h.formulaSource
  have htokens := Token.ofText?_rendered hsource (f.run_tokens extra .whole 0)
    (fun before p => depth_le_of_nestsWithin h hnesting) hshort hcaret hhead
  rw [Expr.ofText?, htokens, Option.bind_some]
  exact Grammar.ofTokens?_tokens extra f (Nat.lt_succ_of_le hsource.length_le)

/-- Text that stands for an expression has the outcome of the expression, if it fits. -/
theorem evaluate_of_ofText? {limits : Limits} {e : Expr}
    (hlength : (text.length : Int) ≤ limits.maxLength)
    (hnull : (formulaSource text).contains '\x00' = false)
    (hread : Expr.ofText? (formulaSource text) = some e) :
    evaluate limits text = (e.eval limits.maxExponent).mapError Rejection.failed := by
  rw [evaluate, if_neg (Int.not_lt.mpr hlength)]
  simp only [hnull, Bool.false_eq_true, if_false, hread]
  cases e.eval limits.maxExponent <;> rfl

theorem contains_null {ts : List Token} (h : Rendered Token.IsSpelled ts text) :
    text.contains '\x00' = false := by
  rw [Bool.eq_false_iff]
  intro hmem
  rcases h.isWritten _ (List.contains_iff_mem.mp hmem) with hc | hc
  · cases hc
  · cases hc

/-- **Evaluating the text of a formula gives the outcome of the formula**: the same value, or the
same failure. The text may spell powers either way, hold any blanks between tokens, and have
parentheses around any operands as long as those that are needed are there. -/
theorem evaluate_rendered {limits : Limits}
    (h : Rendered Token.IsSpelled (f.tokens extra .whole) text)
    (hlength : (text.length : Int) ≤ limits.maxLength)
    (hnesting : NestsWithin Token.maxNesting text)
    (hshort : ∀ t ∈ f.tokens extra .whole, t.isShort) :
    evaluate limits text
      = ((f.toExpr Empty.elim).eval limits.maxExponent).mapError Rejection.failed :=
  evaluate_of_ofText? hlength (contains_null h.formulaSource.1)
    (ofText?_formulaSource h hnesting hshort)

/-- A difference associates to the left and a sign stands in front of a whole power, so this is
`((-(1 ** 2)) - 3) - 4`, with only the parentheses that are needed and with all of them. -/
theorem evaluate_rendered_differences :
    let f : Formula Empty :=
      .binary .subtract
        (.binary .subtract (.signed .minus (.binary .power (.numeral 1) (.numeral 2))) (.numeral 3))
        (.numeral 4)
    let limits : Limits := { maxLength := 1000, maxExponent := 1000 }
    (f.toExpr Empty.elim |>.eval 1000).toOption = some (-8.0) ∧
      evaluate limits "-1 ^ 2-3 -4 ".toList
        = (f.toExpr Empty.elim |>.eval 1000).mapError Rejection.failed ∧
      evaluate limits "((-(1**2))-3)-4".toList
        = (f.toExpr Empty.elim |>.eval 1000).mapError Rejection.failed := by
  intro f limits
  have hnesting : ∀ text : Text, text.count '(' ≤ Token.maxNesting →
      NestsWithin Token.maxNesting text := by
    intro text h before hbefore
    have hcount := hbefore.sublist.count_le '('
    omega
  refine ⟨by decide +kernel, ?_, ?_⟩
  · have hsparing : Rendered Token.IsSpelled (f.tokens Formula.sparing .whole)
        "-1 ^ 2-3 -4 ".toList :=
      .item ['-'] (.listed (by decide)) <| .item ['1'] (.listed (by decide)) <| .blank rfl <|
      .item ['^'] (.listed (by decide)) <| .blank rfl <| .item ['2'] (.listed (by decide)) <|
      .item ['-'] (.listed (by decide)) <| .item ['3'] (.listed (by decide)) <| .blank rfl <|
      .item ['-'] (.listed (by decide)) <| .item ['4'] (.listed (by decide)) <| .blank rfl <|
      .nil (by decide)
    exact evaluate_rendered hsparing (by decide) (hnesting _ (by decide)) (by decide)
  · have hlavish : Rendered Token.IsSpelled (f.tokens Formula.lavish .whole)
        "((-(1**2))-3)-4".toList :=
      .item ['('] (.listed (by decide)) <| .item ['('] (.listed (by decide)) <|
      .item ['-'] (.listed (by decide)) <| .item ['('] (.listed (by decide)) <|
      .item ['1'] (.listed (by decide)) <| .item ['*', '*'] (.listed (by decide)) <|
      .item ['2'] (.listed (by decide)) <| .item [')'] (.listed (by decide)) <|
      .item [')'] (.listed (by decide)) <| .item ['-'] (.listed (by decide)) <|
      .item ['3'] (.listed (by decide)) <| .item [')'] (.listed (by decide)) <|
      .item ['-'] (.listed (by decide)) <| .item ['4'] (.listed (by decide)) <|
      .nil (by decide)
    exact evaluate_rendered hlavish (by decide) (hnesting _ (by decide)) (by decide)

end Formulary
