/-
Formulary.Proofs.LeftOver — a placeholder that no filter has replaced stops the evaluation.

Nothing in the evaluator looks for placeholders. It is the braces that stop it: outside of comments
they are tokens, and no expression that they can be part of has a value. In a comment they are no
tokens, so there a placeholder is left over without a failure, and without a report.
-/
import Formulary.Proofs.ArithmeticText
import Formulary.Proofs.Diagnostics
import Formulary.Proofs.Fragments

namespace Formulary

namespace Placeholder

theorem fragment_mem_unresolved {name : Text} (hname : IsPlain name) (before behind : Text) :
    fragment name ∈ unresolved (before ++ fragment name ++ behind) :=
  List.mem_eraseDups.mpr (fragment_mem_occurrences hname before behind)

/-- A fragment behind a text, with the given name, has both of its braces in comments. -/
def IsCommentedOut (before name : Text) : Prop :=
  Zone.code.behind before = .comment ∧ Zone.code.behind (before ++ '\x7b' :: name) = .comment

/-- In a text with a value, every fragment is commented out. -/
theorem isCommentedOut_of_evaluate_ok {limits : Limits} {before name behind : Text} {x : Float}
    (h : evaluate limits (before ++ fragment name ++ behind) = .ok x) :
    IsCommentedOut before name := by
  have hclear := clear_of_evaluate_ok h
  have hopening : before ++ fragment name ++ behind
      = before ++ '\x7b' :: (name ++ '\x7d' :: behind) := by simp [fragment]
  have hclosing : before ++ fragment name ++ behind
      = (before ++ '\x7b' :: name) ++ '\x7d' :: behind := by simp [fragment]
  constructor
  · rw [hopening] at hclear
    exact hclear.comment_of_brace rfl
  · rw [hclosing] at hclear
    exact hclear.comment_of_brace rfl

end Placeholder

namespace Rack

open Placeholder

/-- **A left-over placeholder fails the formula and is listed**, whatever the filters are, except
where both of its braces stand in comments. -/
theorem evaluate_leftOver (limits : Limits) {rack : Rack} {arguments : List Selection}
    {formula before name behind : Text} (hname : IsPlain name)
    (happlied : (rack.applyAll (Selection.flatten arguments) formula).result
      = .ok (before ++ fragment name ++ behind)) :
    ∃ e, (rack.evaluate limits arguments formula).result = .ok e ∧
      ((e.success = false ∧ e.result = none ∧ fragment name ∈ e.unresolved) ∨
        (e.success = true ∧ IsCommentedOut before name)) := by
  cases hvalue : Formulary.evaluate limits (before ++ fragment name ++ behind) with
  | ok x =>
    exact ⟨_, evaluate_of_ok happlied hvalue, .inr ⟨rfl, isCommentedOut_of_evaluate_ok hvalue⟩⟩
  | error rejection =>
    have hdiagnosed : diagnosed formula (some (before ++ fragment name ++ behind))
        = before ++ fragment name ++ behind := by
      simp [diagnosed, fragment]
    refine ⟨_, evaluate_of_rejected happlied hvalue, .inl ⟨rfl, rfl, ?_⟩⟩
    rw [failedEvaluation, hdiagnosed]
    exact fragment_mem_unresolved hname before behind

/-- Behind a sum, a placeholder is no comment. -/
theorem evaluate_leftOver_sum :
    let limits : Limits := { maxLength := 1000, maxExponent := 1000 }
    ∃ e, (evaluate limits [] [] "1+\x7bx\x7d".toList).result = .ok e ∧
      e.success = false ∧ e.result = none ∧ "\x7bx\x7d".toList ∈ e.unresolved := by
  intro limits
  obtain ⟨e, he, hfailed | ⟨-, hcomment, -⟩⟩ :=
    @evaluate_leftOver limits [] [] "1+\x7bx\x7d".toList "1+".toList "x".toList []
      (by decide) rfl
  · exact ⟨e, he, hfailed⟩
  · exact absurd hcomment (by decide)

/-- Behind a number sign, a placeholder is a comment: it is left over, but the formula has a value
and nothing is reported. -/
theorem evaluate_leftOver_comment :
    let limits : Limits := { maxLength := 1000, maxExponent := 1000 }
    ∃ e, (evaluate limits [] [] "1 # \x7bx\x7d".toList).result = .ok e ∧
      e.substituted = some "1 # \x7bx\x7d".toList ∧ e.success = true ∧ e.result = some 1.0 ∧
      e.unresolved = [] := by
  intro limits
  have hvalue : Formulary.evaluate limits "1 # \x7bx\x7d".toList = .ok 1.0 :=
    eq_ok_of_toOption (by decide +kernel)
  exact ⟨_, evaluate_of_ok rfl hvalue, rfl, rfl, rfl, rfl⟩

end Rack

end Formulary
