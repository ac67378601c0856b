/-
Formulary.Proofs.StagedEntries — one-shot entries override constants for one run.

A rack that is built with one-shot entries has state, but only for one run: its first run is that of
a rack in which these entries are constants, its second one that of a rack without them. Every
filter of a built rack never fails, and turns a text into another by a function that no other filter
has a part in; `Filter.ActsAs` names that function for the first and for the second application. A
run is then a composition of such functions. Comparing two racks is comparing the tokens that they
go through and the replacements that these have; a token without a replacement does nothing, so it
does not matter whether there is a filter for it.
-/
import Formulary.Build
import Formulary.Proofs.Applying
import Formulary.Proofs.Running

namespace Formulary

/-! ## Tables -/

namespace Entries

variable {name : Text} {entries : Entries Value}

/-- The table with each one-shot entry that stages some text put in as that text. -/
def overridden (values staged : Entries Value) : Entries Value :=
  staged.foldl
    (fun entries (token, value) =>
      if value.toText = [] then entries else entries.put token (.text value.toText))
    values

theorem overridden_cons (values : Entries Value) (token : Text) (value : Value)
    (rest : Entries Value) :
    overridden values ((token, value) :: rest)
      = overridden (if value.toText = [] then values else values.put token (.text value.toText))
          rest :=
  rfl

/-- Setting a name that the table has leaves its names as they are. -/
theorem map_fst_put_of_mem {α : Type} {entries : Entries α} (value : α)
    (h : name ∈ entries.map Prod.fst) :
    (entries.put name value).map Prod.fst = entries.map Prod.fst := by
  induction entries with
  | nil => exact absurd h List.not_mem_nil
  | cons entry rest ih =>
    obtain ⟨other, old⟩ := entry
    rw [put]
    split
    case isTrue heq => rw [List.map_cons, List.map_cons, heq]
    case isFalse hne =>
      rw [List.map_cons, List.map_cons, ih ((List.mem_cons.mp h).resolve_left (Ne.symm hne))]

/-- A new name comes last. -/
theorem map_fst_put_of_not_mem {α : Type} {entries : Entries α} (value : α)
    (h : name ∉ entries.map Prod.fst) :
    (entries.put name value).map Prod.fst = entries.map Prod.fst ++ [name] := by
  induction entries with
  | nil => rfl
  | cons entry rest ih =>
    obtain ⟨other, old⟩ := entry
    rw [List.map_cons, List.mem_cons, not_or] at h
    rw [put, if_neg (Ne.symm h.1), List.map_cons, List.map_cons, ih h.2, List.cons_append]

/-- An entry of a table in which a name is set is the new one, or was there before. -/
theorem mem_put {α : Type} {value : α} {entries : Entries α} {entry : Text × α}
    (h : entry ∈ entries.put name value) : entry = (name, value) ∨ entry ∈ entries := by
  induction entries with
  | nil => exact .inl (List.mem_singleton.mp h)
  | cons first rest ih =>
    obtain ⟨other, old⟩ := first
    rw [put] at h
    split at h
    case isTrue => exact (List.mem_cons.mp h).imp_right (List.mem_cons_of_mem _)
    case isFalse =>
      rcases List.mem_cons.mp h with rfl | hrest
      · exact .inr List.mem_cons_self
      · exact (ih hrest).imp_right (List.mem_cons_of_mem _)

/-- The entries of the overridden table are old ones and texts. -/
theorem mem_overridden {values staged : Entries Value} {entry : Text × Value}
    (h : entry ∈ overridden values staged) : entry ∈ values ∨ ∃ text, entry.2 = .text text := by
  induction staged generalizing values with
  | nil => exact .inl h
  | cons first rest ih =>
    obtain ⟨token, value⟩ := first
    rw [overridden_cons] at h
    rcases ih h with hentry | htext
    · split at hentry
      case isTrue => exact .inl hentry
      case isFalse =>
        rcases mem_put hentry with rfl | hold
        · exact .inr ⟨_, rfl⟩
        · exact .inl hold
    · exact .inr htext

theorem get?_eq_none_iff {α : Type} {entries : Entries α} :
    entries.get? name = none ↔ name ∉ entries.map Prod.fst := by
  induction entries with
  | nil => simp [get?]
  | cons entry rest ih =>
    obtain ⟨other, old⟩ := entry
    by_cases h : other = name
    · simp [get?, h]
    · simp [get?, h, Ne.symm h, ih]

/-- The text that the table stages for a token, if it is not empty. -/
def stagedText? (staged : Entries Value) (token : Text) : Option Text :=
  (get? token staged).bind fun value => if value.toText = [] then none else some value.toText

/-- What is staged for the first token of a table. -/
theorem stagedText?_cons_self (token : Text) (value : Value) (rest : Entries Value) :
    stagedText? ((token, value) :: rest) token
      = if value.toText = [] then none else some value.toText := by
  rw [stagedText?, get?, if_pos rfl, Option.bind_some]

/-- What is staged for any other token is up to the rest of the table. -/
theorem stagedText?_cons_of_ne {other token : Text} (h : other ≠ token) (value : Value)
    (rest : Entries Value) :
    stagedText? ((other, value) :: rest) token = stagedText? rest token := by
  rw [stagedText?, get?, if_neg h, stagedText?]

/-- In the overridden table a token has its staged text, if there is one, and else its old value. -/
theorem get?_overridden {values staged : Entries Value} (hstaged : (staged.map Prod.fst).Nodup)
    (token : Text) :
    (overridden values staged).get? token
      = ((stagedText? staged token).map Value.text).or (values.get? token) := by
  induction staged generalizing values with
  | nil => rfl
  | cons entry rest ih =>
    obtain ⟨other, value⟩ := entry
    obtain ⟨hother, hrest⟩ := List.nodup_cons.mp hstaged
    rw [overridden_cons, ih hrest]
    by_cases htoken : other = token
    · -- The token is none of the rest, so its value stays as this entry has set it.
      subst htoken
      have hnone : stagedText? rest other = none := by
        rw [stagedText?, get?_eq_none_iff.mpr hother, Option.bind_none]
      rw [hnone, stagedText?_cons_self]
      split
      case isTrue => rfl
      case isFalse =>
        rw [Option.map_none, Option.none_or, get?_put_self]
        rfl
    · rw [stagedText?_cons_of_ne htoken]
      split
      case isTrue => rfl
      case isFalse => rw [get?_put_of_ne (Ne.symm htoken)]

/-- The tokens of the overridden table: the old ones, then those that are new, in the order of the
one-shot entries. -/
theorem map_fst_overridden {values staged : Entries Value}
    (hstaged : (staged.map Prod.fst).Nodup) :
    (overridden values staged).map Prod.fst
      = values.map Prod.fst ++ (staged.map Prod.fst).filter fun token =>
          (stagedText? staged token).isSome && !(values.map Prod.fst).contains token := by
  induction staged generalizing values with
  | nil => simp [overridden]
  | cons entry rest ih =>
    obtain ⟨other, value⟩ := entry
    obtain ⟨hother, hrest⟩ := List.nodup_cons.mp hstaged
    have hne : ∀ token ∈ rest.map Prod.fst, other ≠ token := by
      rintro token htoken rfl
      exact hother htoken
    have hbehind : (rest.map Prod.fst).filter (fun token =>
          (stagedText? ((other, value) :: rest) token).isSome
            && !(values.map Prod.fst).contains token)
        = (rest.map Prod.fst).filter fun token =>
          (stagedText? rest token).isSome && !(values.map Prod.fst).contains token :=
      List.filter_congr fun token htoken => by rw [stagedText?_cons_of_ne (hne token htoken)]
    rw [overridden_cons, ih hrest, List.map_cons, List.filter_cons, hbehind, stagedText?_cons_self]
    by_cases hempty : value.toText = []
    · simp [hempty]
    · rw [if_neg hempty, if_neg hempty]
      by_cases hmem : other ∈ values.map Prod.fst
      · rw [map_fst_put_of_mem _ hmem, if_neg (by simp [hmem])]
      · -- The token has joined the names of the table; it is none of the rest.
        have hnew : (rest.map Prod.fst).filter (fun token =>
              (stagedText? rest token).isSome && !(values.map Prod.fst ++ [other]).contains token)
            = (rest.map Prod.fst).filter fun token =>
              (stagedText? rest token).isSome && !(values.map Prod.fst).contains token :=
          List.filter_congr fun token htoken => by
            rw [Bool.eq_iff_iff]
            simp [Ne.symm (hne token htoken)]
        rw [map_fst_put_of_not_mem _ hmem, hnew, if_pos (by simpa using hmem), List.append_assoc,
          List.singleton_append]

end Entries

/-! ## Filters as functions -/

namespace Filter

/-- The filter never fails: it turns texts into others in the first way, and in the second way when
it is applied once more. -/
def ActsAs (f : Filter) (now next : Text → Text) : Prop :=
  ∀ text, (f.apply text).result = .ok (now text) ∧
    ∀ other, ((f.apply text).filter.apply other).result = .ok (next other)

/-- Putting a replacement in, if it may be used, as a function of the text. -/
def replacing (token : Text) (replacement : Option Text) (text : Text) : Text :=
  (substitute token replacement text).1

theorem replacing_none (token text : Text) : replacing token none text = text :=
  rfl

/-- A filter for a constant with nothing staged puts the constant in, and goes on doing so. -/
theorem apply_constant (token : Text) (value : Value) (calls : List Call) (text : Text) :
    let f : Filter := ⟨.overridable token [], some (.constant value), calls⟩
    (f.apply text).result = .ok (replacing token (Replacement.ofValue value) text) ∧
      (f.apply text).filter = ⟨.overridable token [], some (.constant value), calls ++ [none]⟩ := by
  intro f
  exact apply_called (f := f) rfl rfl text

/-- A filter for a constant puts in what is staged, and from then on its constant. -/
theorem actsAs_constant (token staged : Text) (value : Value) (calls : List Call) :
    ActsAs ⟨.overridable token staged, some (.constant value), calls⟩
      (replacing token (if staged = [] then Replacement.ofValue value else some staged))
      (replacing token (Replacement.ofValue value)) := by
  intro text
  by_cases hstaged : staged = []
  · subst hstaged
    obtain ⟨hresult, hfilter⟩ := apply_constant token value calls text
    refine ⟨hresult, fun other => ?_⟩
    rw [hfilter]
    exact (apply_constant token value _ other).1
  · rw [if_neg hstaged]
    obtain ⟨hresult, hfilter⟩ := apply_staged
      (f := ⟨.overridable token staged, some (.constant value), calls⟩) rfl rfl hstaged text
    refine ⟨hresult, fun other => ?_⟩
    rw [hfilter]
    exact (apply_constant token value _ other).1

/-- The text that a piece becomes when its key is looked up in a table. -/
def resolved (form : KeyedForm) (entries : List (Text × Value)) : Piece → Text
  | .plain c => [c]
  | .keyed [] => form.placeholder []
  | .keyed key =>
    let value := ((entries.find? fun e => e.1 == key).map fun e => e.2).getD .null
    (Replacement.accepted? (Replacement.ofValue value)).getD (form.placeholder key)

/-- Looking keys up never fails, and does not depend on what has been looked up before. -/
theorem resolvePieces_lookup (form : KeyedForm) (entries : List (Text × Value))
    (calls : List Call) (pieces : List Piece) :
    (resolvePieces form (.lookup entries) calls pieces).result
      = .ok (pieces.flatMap (resolved form entries)) := by
  induction pieces generalizing calls with
  | nil => rfl
  | cons piece rest ih =>
    rw [List.flatMap_cons]
    cases piece with
    | plain c => rw [resolvePieces, ih]; rfl
    | keyed key =>
      cases key with
      | nil => rw [resolvePieces, ih]; rfl
      | cons k key =>
        rw [resolvePieces_keyed_of_ok (List.cons_ne_nil k key) rfl, ih]
        rfl

/-- A keyed filter for a table goes on as it has begun. -/
theorem actsAs_lookup (form : KeyedForm) (entries : List (Text × Value)) (calls : List Call) :
    ActsAs ⟨.keyed form, some (.lookup entries), calls⟩
      (fun text => (form.pieces text).flatMap (resolved form entries))
      (fun text => (form.pieces text).flatMap (resolved form entries)) := by
  intro text
  obtain ⟨hresult, hfilter⟩ := apply_keyed
    (f := ⟨.keyed form, some (.lookup entries), calls⟩) rfl rfl text
  refine ⟨hresult.trans (resolvePieces_lookup ..), fun other => ?_⟩
  rw [hfilter]
  exact (apply_keyed (f := ⟨.keyed form, some (.lookup entries), _⟩) rfl rfl other).1.trans
    (resolvePieces_lookup ..)

end Filter

namespace Rack

/-! ## Runs as compositions -/

/-- The composition of the functions of some items, in their order. -/
def compose {ι : Type} (act : ι → Text → Text) (items : List ι) (text : Text) : Text :=
  items.foldl (fun text i => act i text) text

theorem compose_append {ι : Type} (act : ι → Text → Text) (items others : List ι) (text : Text) :
    compose act (items ++ others) text = compose act others (compose act items text) :=
  List.foldl_append

/-- Two runs over filters that act as functions are two compositions. -/
theorem pass_twice {ι : Type} {filter : ι → Filter} {now next : ι → Text → Text}
    (h : ∀ i, (filter i).ActsAs (now i) (next i)) (items : List ι) (text other : Text) :
    (pass (items.map filter) text).1 = .ok (compose now items text) ∧
      (pass (pass (items.map filter) text).2 other).1 = .ok (compose next items other) := by
  induction items generalizing text other with
  | nil => exact ⟨rfl, rfl⟩
  | cons i rest ih =>
    obtain ⟨hnow, hnext⟩ := h i text
    rw [List.map_cons, pass, hnow]
    simp only
    rw [pass, hnext other]
    exact ih (now i text) (next i other)

/-- Items that do nothing may be left out. -/
theorem compose_filter {ι : Type} {act : ι → Text → Text} {p : ι → Bool} {items : List ι}
    (h : ∀ i ∈ items, p i = false → ∀ text, act i text = text) (text : Text) :
    compose act (items.filter p) text = compose act items text := by
  induction items generalizing text with
  | nil => rfl
  | cons i rest ih =>
    have hrest := ih fun j hj => h j (List.mem_cons_of_mem i hj)
    rw [List.filter_cons, compose, compose, List.foldl_cons]
    by_cases hp : p i = true
    · rw [if_pos hp, List.foldl_cons]
      exact hrest (act i text)
    · rw [if_neg hp, h i List.mem_cons_self (Bool.eq_false_iff.mpr hp)]
      exact hrest text

/-! ## Built racks -/

open Entries (overridden stagedText?)
open Formulary.Filter (replacing)

/-- The text that a built rack puts in the place of a token in its first run: what is staged for it,
or else its constant. It need not be a text that may be put in. -/
def replacementIn (values staged : Entries Value) (token : Text) : Option Text :=
  (stagedText? staged token).or (Replacement.ofValue ((values.get? token).getD .null))

/-- A token that the tables do not know has no replacement. -/
theorem replacementIn_eq_none {values staged : Entries Value} {token : Text}
    (hvalues : token ∉ values.map Prod.fst) (hstaged : stagedText? staged token = none) :
    replacementIn values staged token = none := by
  rw [replacementIn, hstaged, Entries.get?_eq_none_iff.mpr hvalues]
  rfl

/-- A staged text is the constant of the overridden table. -/
theorem replacementIn_overridden {values staged : Entries Value}
    (hstaged : (staged.map Prod.fst).Nodup) (token : Text) :
    replacementIn (overridden values staged) [] token = replacementIn values staged token := by
  rw [replacementIn, replacementIn, Entries.get?_overridden hstaged]
  cases stagedText? staged token with
  | none => rfl
  | some text => rfl

theorem actsAs_tokenFilter (values staged : Entries Value) (token : Text) :
    (tokenFilter values staged token).ActsAs
      (replacing token (replacementIn values staged token))
      (replacing token (replacementIn values [] token)) := by
  rw [tokenFilter, replacementIn, stagedText?]
  cases Entries.get? token staged with
  | none => exact Filter.actsAs_constant token [] _ []
  | some value =>
    have h := Filter.actsAs_constant token value.toText ((values.get? token).getD .null) []
    simp only [Option.bind_some]
    split at h
    case isTrue hempty => rw [if_pos hempty]; exact h
    case isFalse hne => rw [if_neg hne]; exact h

/-- What the filter for a keyed description makes of a text. -/
def resolvingKeyed (spec : KeyedSpec) (text : Text) : Text :=
  (spec.form.pieces text).flatMap
    (Filter.resolved spec.form (spec.values.map fun (key, value) => (key, value.toValue)))

/-- What a built rack makes of a template: the tokens are replaced one after the other, and then the
keyed placeholders. -/
def substituted (keyed : List KeyedSpec) (tokens : List Text) (replacement : Text → Option Text)
    (text : Text) : Text :=
  compose resolvingKeyed keyed
    (compose (fun token => replacing token (replacement token)) tokens text)

/-- Tokens without a replacement may be left out. -/
theorem substituted_filter {replacement : Text → Option Text} {p : Text → Bool}
    {others : List Text} (h : ∀ token ∈ others, p token = false → replacement token = none)
    (keyed : List KeyedSpec) (tokens : List Text) (text : Text) :
    substituted keyed (tokens ++ others.filter p) replacement text
      = substituted keyed (tokens ++ others) replacement text := by
  have hidle : ∀ token ∈ others, p token = false →
      ∀ text, replacing token (replacement token) text = text := by
    intro token htoken hp text
    rw [h token htoken hp]
    exact Filter.replacing_none token text
  rw [substituted, substituted, compose_append, compose_append, compose_filter hidle]

/-- **A built rack substitutes twice.** In the second run only the constants are left. -/
theorem substitute_build (values staged : Entries Value) (keyed : List KeyedSpec)
    (first second : Text) :
    let run := (build values staged keyed).substitute first
    run.result
        = .ok (substituted keyed (tokens values staged) (replacementIn values staged) first) ∧
      (run.rack.substitute second).result
        = .ok (substituted keyed (tokens values staged) (replacementIn values []) second) := by
  intro run
  have hbuild : build values staged keyed
      = ((tokens values staged).map Sum.inl ++ keyed.map Sum.inr).map
          (Sum.elim (tokenFilter values staged) keyedFilter) := by
    simp [build]
  have hacts : ∀ i, (Sum.elim (tokenFilter values staged) keyedFilter i).ActsAs
      (Sum.elim (fun token => replacing token (replacementIn values staged token))
        resolvingKeyed i)
      (Sum.elim (fun token => replacing token (replacementIn values [] token))
        resolvingKeyed i) := by
    rintro (token | spec)
    · exact actsAs_tokenFilter values staged token
    · exact Filter.actsAs_lookup _ _ _
  obtain ⟨hfirst, hsecond⟩ := pass_twice hacts
    ((tokens values staged).map Sum.inl ++ keyed.map Sum.inr) first second
  rw [← hbuild] at hfirst hsecond
  obtain ⟨hresult, hrack⟩ := substitute_eq_pass (build values staged keyed) first
  refine ⟨hresult.trans (hfirst.trans ?_), ?_⟩
  · simp [substituted, compose, List.foldl_append, List.foldl_map]
  · refine (substitute_eq_pass _ second).1.trans ?_
    rw [hrack, hsecond]
    simp [substituted, compose, List.foldl_append, List.foldl_map]

/-- The values of the tables, all of which have a text. A table with another value describes no run:
its text is missing when it is staged, or when its token is found. -/
structure Written (values staged : Entries Value) (keyed : List KeyedSpec) : Prop where
  /-- The constants. -/
  constants : ∀ entry ∈ values, entry.2.hasText = true
  /-- The one-shot entries. -/
  oneShots : ∀ entry ∈ staged, entry.2.hasText = true
  /-- The values for the keys. -/
  keys : ∀ spec ∈ keyed, ∀ entry ∈ spec.values, entry.2.toValue.hasText = true

/-- What is put in for a one-shot entry is its text. -/
theorem Written.overridden {values staged : Entries Value} {keyed : List KeyedSpec}
    (h : Written values staged keyed) : Written (overridden values staged) [] keyed where
  constants := by
    rintro ⟨token, value⟩ hentry
    rcases Entries.mem_overridden hentry with hold | ⟨text, rfl⟩
    · exact h.constants _ hold
    · rfl
  oneShots _ hentry := absurd hentry List.not_mem_nil
  keys := h.keys

/-- The tokens that only the one-shot entries know. -/
def addedTokens (values staged : Entries Value) : List Text :=
  (staged.map Prod.fst).filter fun token => !(values.map Prod.fst).contains token

theorem tokens_eq (values staged : Entries Value) :
    tokens values staged = values.map Prod.fst ++ addedTokens values staged :=
  rfl

theorem not_mem_of_mem_addedTokens {values staged : Entries Value} {token : Text}
    (h : token ∈ addedTokens values staged) : token ∉ values.map Prod.fst := by
  have hnew := (List.mem_filter.mp h).2
  simpa using hnew

/-- The overridden table knows the tokens of the constants, and of the added ones those for which
some text is staged. -/
theorem tokens_overridden {values staged : Entries Value} (hstaged : (staged.map Prod.fst).Nodup) :
    tokens (overridden values staged) []
      = values.map Prod.fst
        ++ (addedTokens values staged).filter fun token => (stagedText? staged token).isSome := by
  rw [tokens_eq, Entries.map_fst_overridden hstaged, addedTokens, addedTokens, List.map_nil,
    List.filter_nil, List.append_nil, List.filter_filter]

/-- **One-shot entries override for one run.** All values of the tables have texts; then the texts
that one-shot entries stage can be put in as constants, and the first run over a rack built with
these entries is the run over the rack with those constants. The run that follows is that over the
rack without them, whatever the first template was. Neither fails. -/
theorem substitute_staged_once {values staged : Entries Value} {keyed : List KeyedSpec}
    (hstaged : (staged.map Prod.fst).Nodup) (hwritten : Written values staged keyed)
    (first second : Text) :
    let run := (build values staged keyed).substitute first
    Written (overridden values staged) [] keyed ∧
    (∃ text, run.result = .ok text ∧
      ((build (overridden values staged) [] keyed).substitute first).result = .ok text) ∧
    ∃ text, (run.rack.substitute second).result = .ok text ∧
      ((build values [] keyed).substitute second).result = .ok text := by
  intro run
  obtain ⟨hfirst, hsecond⟩ := substitute_build values staged keyed first second
  refine ⟨hwritten.overridden, ⟨_, hfirst, ?_⟩, ⟨_, hsecond, ?_⟩⟩
  · -- A token for which nothing is staged has no replacement unless it has a constant.
    have hnone : ∀ token ∈ addedTokens values staged, (stagedText? staged token).isSome = false →
        replacementIn values staged token = none := by
      intro token htoken hidle
      exact replacementIn_eq_none (not_mem_of_mem_addedTokens htoken) (by simpa using hidle)
    rw [tokens_eq, ← substituted_filter hnone, ← tokens_overridden hstaged,
      ← funext (replacementIn_overridden hstaged)]
    exact (substitute_build (overridden values staged) [] keyed first second).1
  · -- Once what was staged is gone, none of the added tokens has a replacement.
    have hnone : ∀ token ∈ addedTokens values staged, false = false →
        replacementIn values [] token = none := by
      intro token htoken _
      exact replacementIn_eq_none (not_mem_of_mem_addedTokens htoken) rfl
    have hempty : (addedTokens values staged).filter (fun _ => false) = [] := by simp
    rw [tokens_eq, ← substituted_filter hnone, hempty]
    exact (substitute_build values [] keyed second second).1

/-- A constant overridden once, a token that is only staged, and one for which the empty text is
staged: the second run has the constant again, and leaves the other two tokens. -/
theorem substitute_staged_once_sum :
    let values : Entries Value := [("x".toList, .int 1), ("y".toList, .bool true)]
    let staged : Entries Value :=
      [("z".toList, .text "2".toList), ("w".toList, .text []), ("x".toList, .int 6)]
    let keyed : List KeyedSpec := [{ values := [("k".toList, .int 5)] }]
    let template := "x+y+z+w+\x7battribute:k\x7d".toList
    let run := (build values staged keyed).substitute template
    (staged.map Prod.fst).Nodup ∧ Written values staged keyed ∧
      run.result.toOption = some "6+true+2+w+5".toList ∧
      (run.rack.substitute template).result.toOption = some "1+true+z+w+5".toList := by
  intro values staged keyed template run
  have hstaged : (staged.map Prod.fst).Nodup := by decide
  have hwritten : Written values staged keyed := ⟨by decide, by decide, by decide⟩
  obtain ⟨-, ⟨first, hfirst, hconstants⟩, second, hsecond, hplain⟩ :=
    @substitute_staged_once values staged keyed hstaged hwritten template template
  refine ⟨hstaged, hwritten, ?_, ?_⟩
  · rw [hfirst, ← hconstants]
    decide +kernel
  · rw [hsecond, ← hplain]
    decide +kernel

end Rack

end Formulary
