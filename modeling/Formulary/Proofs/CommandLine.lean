/-
Formulary.Proofs.CommandLine — the command line and the service compute the same thing.

The command line takes assignments one after another, for any tokens and keys in any order; the
service takes one body with tables in it. Which body a list of assignments stands for is said here
without putting anything into a table: every name once, in the order of first appearance, with the
value of its last assignment. That the tables of the command line are these, and that the body is
read back as these tables, leaves one rack on both sides; and both evaluate with it.

What is compared is what the two report: the status, the number, the error, and the placeholders
that are left. The log lines of the command line have no counterpart in an answer. First comes the
request that the options stand for; that the body is read as that request is the schema's part. In
the body all values are texts and stay texts, and texts are sequences of characters, so that the
body can be written and read.
-/
import Formulary.Cli.Basic
import Formulary.Proofs.Endpoints
import Mathlib.Data.List.Induction

namespace Formulary

/-! ## Tables from assignments -/

namespace Entries

variable {α β : Type} {names : List Text} {name : Text}

/-- The table of these names, each with its value. -/
def tabulated (names : List Text) (value : Text → α) : Entries α :=
  names.map fun name => (name, value name)

/-- The table with its values changed by a function. -/
def mapped (f : α → β) (entries : Entries α) : Entries β :=
  entries.map fun entry => (entry.1, f entry.2)

/-- The value of the last pair with this name. -/
def lastText (pairs : List (Text × Text)) (name : Text) : Text :=
  ((pairs.reverse.find? fun pair => pair.1 == name).map Prod.snd).getD []

/-- The table that pairs stand for: every name once, in the order of first appearance, with the
value of its last pair. -/
def latest (pairs : List (Text × Text)) : Entries Text :=
  tabulated (pairs.map Prod.fst).eraseDups (lastText pairs)

/-- A name that comes last is new, or has appeared already. -/
theorem eraseDups_concat (names : List Text) (name : Text) :
    (names ++ [name]).eraseDups
      = if name ∈ names.eraseDups then names.eraseDups else names.eraseDups ++ [name] := by
  rw [List.eraseDups_append]
  by_cases hname : name ∈ names
  · simp [List.removeAll, hname]
  · simp [List.removeAll, hname, List.eraseDups_cons]

theorem nodup_eraseDups (names : List Text) : names.eraseDups.Nodup := by
  induction names using List.reverseRecOn with
  | nil => exact List.nodup_nil
  | append_singleton names name ih =>
    rw [eraseDups_concat]
    split
    case isTrue => exact ih
    case isFalse hname => exact List.concat_eq_append ▸ ih.concat hname

theorem map_fst_tabulated (names : List Text) (value : Text → α) :
    (tabulated names value).map Prod.fst = names := by
  rw [tabulated, List.map_map]
  exact List.map_id names

theorem put_of_not_mem {entries : Entries α} (value : α) (h : name ∉ entries.map Prod.fst) :
    entries.put name value = entries ++ [(name, value)] := by
  induction entries with
  | nil => rfl
  | cons entry rest ih =>
    obtain ⟨other, old⟩ := entry
    rw [List.map_cons, List.mem_cons, not_or] at h
    rw [put, if_neg (Ne.symm h.1), ih h.2, List.cons_append]

/-- Setting a name gives it the value and leaves the others as they are; a new name comes last. -/
theorem put_tabulated (hnames : names.Nodup) (value : Text → α) (name : Text) (new : α) :
    (tabulated names value).put name new
      = tabulated (if name ∈ names then names else names ++ [name])
          (fun other => if other = name then new else value other) := by
  induction names with
  | nil => simp [tabulated, put]
  | cons first rest ih =>
    obtain ⟨hfirst, hrest⟩ := List.nodup_cons.mp hnames
    by_cases h : first = name
    · subst h
      have hsame : ∀ other ∈ rest, (if other = first then new else value other) = value other :=
        fun other hother => if_neg (ne_of_mem_of_not_mem hother hfirst)
      simp only [tabulated, List.map_cons, put, List.mem_cons_self, if_true, List.cons.injEq,
        true_and]
      exact List.map_congr_left fun other hother => by rw [hsame other hother]
    · have hput : (tabulated (first :: rest) value).put name new
          = (first, value first) :: (tabulated rest value).put name new := by
        rw [tabulated, List.map_cons, put, if_neg h]
        rfl
      rw [hput, ih hrest]
      by_cases hname : name ∈ rest <;> simp [tabulated, hname, h, Ne.symm h]

theorem get?_tabulated (names : List Text) (value : Text → α) (name : Text) :
    (tabulated names value).get? name = if name ∈ names then some (value name) else none := by
  induction names with
  | nil => rfl
  | cons first rest ih =>
    rw [tabulated, List.map_cons, get?]
    by_cases h : first = name
    · simp [h]
    · rw [if_neg h]
      refine ih.trans ?_
      simp [Ne.symm h]

theorem lastText_concat (pairs : List (Text × Text)) (pair : Text × Text) :
    lastText (pairs ++ [pair])
      = fun name => if name = pair.1 then pair.2 else lastText pairs name := by
  funext name
  rw [lastText, List.reverse_concat, List.find?_cons]
  split
  case h_1 hname => rw [if_pos (beq_iff_eq.mp hname).symm]; rfl
  case h_2 hname => rw [if_neg (Ne.symm (beq_eq_false_iff_ne.mp hname))]; rfl

/-- One more pair is one more value that is set. -/
theorem latest_concat (pairs : List (Text × Text)) (pair : Text × Text) :
    latest (pairs ++ [pair]) = (latest pairs).put pair.1 pair.2 := by
  rw [latest, latest, put_tabulated (nodup_eraseDups _), List.map_append, lastText_concat]
  exact congrArg (tabulated · _) (eraseDups_concat (pairs.map Prod.fst) pair.1)

theorem mapped_put (f : α → β) (entries : Entries α) (name : Text) (value : α) :
    (entries.put name value).mapped f = (entries.mapped f).put name (f value) := by
  induction entries with
  | nil => rfl
  | cons entry rest ih =>
    obtain ⟨other, old⟩ := entry
    rw [put]
    split
    case isTrue heq => simp [mapped, put, heq]
    case isFalse hne =>
      simp only [mapped, List.map_cons, put, if_neg hne] at ih ⊢
      rw [ih]

theorem get?_mapped (f : α → β) (entries : Entries α) (name : Text) :
    (entries.mapped f).get? name = (entries.get? name).map f := by
  induction entries with
  | nil => rfl
  | cons entry rest ih =>
    obtain ⟨other, value⟩ := entry
    rw [mapped, List.map_cons, get?, get?]
    split
    case isTrue => rfl
    case isFalse => exact ih

theorem ofPairs_concat (pairs : List (Text × α)) (pair : Text × α) :
    ofPairs (pairs ++ [pair]) = (ofPairs pairs).put pair.1 pair.2 :=
  List.foldl_append

/-- **Setting the pairs one after another gives the table that they stand for.** -/
theorem ofPairs_map_eq_latest (f : Text → α) (pairs : List (Text × Text)) :
    ofPairs (pairs.map fun pair => (pair.1, f pair.2)) = (latest pairs).mapped f := by
  induction pairs using List.reverseRecOn with
  | nil => rfl
  | append_singleton pairs pair ih =>
    rw [List.map_append, List.map_singleton, ofPairs_concat, ih, latest_concat, mapped_put]

/-- A table is what its own entries stand for. -/
theorem ofPairs_of_nodup {pairs : List (Text × α)} (h : (pairs.map Prod.fst).Nodup) :
    ofPairs pairs = pairs := by
  induction pairs using List.reverseRecOn with
  | nil => rfl
  | append_singleton pairs pair ih =>
    rw [List.map_append, List.nodup_append] at h
    obtain ⟨hpairs, -, hnew⟩ := h
    rw [ofPairs_concat, ih hpairs]
    refine put_of_not_mem pair.2 fun hmem => ?_
    exact hnew pair.1 hmem pair.1 List.mem_cons_self rfl

theorem map_fst_mapped (f : α → β) (entries : Entries α) :
    (entries.mapped f).map Prod.fst = entries.map Prod.fst := by
  rw [mapped, List.map_map]
  rfl

theorem nodup_latest (pairs : List (Text × Text)) : ((latest pairs).map Prod.fst).Nodup := by
  rw [latest, map_fst_tabulated]
  exact nodup_eraseDups _

end Entries

namespace Cli

open Entries (latest tabulated mapped)

/-- The keys and values that the assignments give for a token, in their order. -/
def pairsFor (assignments : List KeyedAssignment) (token : Text) : List (Text × Text) :=
  (assignments.filter (·.token = token)).map fun a => (a.key, a.value)

/-- The tables that keyed assignments stand for: one for each token, in the order of first
appearance, with the value of the last assignment for each key. -/
def keyedTables (assignments : List KeyedAssignment) : Entries (Entries Text) :=
  tabulated (assignments.map (·.token)).eraseDups fun token => latest (pairsFor assignments token)

theorem pairsFor_concat (assignments : List KeyedAssignment) (a : KeyedAssignment) (token : Text) :
    pairsFor (assignments ++ [a]) token
      = if token = a.token then pairsFor assignments token ++ [(a.key, a.value)]
        else pairsFor assignments token := by
  rw [pairsFor, List.filter_append, List.map_append]
  by_cases h : token = a.token
  · simp [pairsFor, h]
  · simp [pairsFor, h, Ne.symm h]

/-- What has been set for a token, if anything has, is the table of its assignments. -/
theorem getD_get?_keyedTables (assignments : List KeyedAssignment) (token : Text) :
    ((keyedTables assignments).get? token).getD [] = latest (pairsFor assignments token) := by
  rw [keyedTables, Entries.get?_tabulated]
  split
  case isTrue => rfl
  case isFalse h =>
    rw [List.mem_eraseDups, List.mem_map, not_exists] at h
    have hnone : assignments.filter (·.token = token) = [] :=
      List.filter_eq_nil_iff.mpr fun a ha => by simpa using fun ht => h a ⟨ha, ht⟩
    rw [pairsFor, hnone]
    rfl

/-- **Setting keyed assignments one after another gives the tables that they stand for.** -/
theorem foldl_putKeyed_eq (assignments : List KeyedAssignment) :
    assignments.foldl putKeyed [] = (keyedTables assignments).mapped (mapped Scalar.text) := by
  induction assignments using List.reverseRecOn with
  | nil => rfl
  | append_singleton assignments a ih =>
    have hold : (((keyedTables assignments).mapped (mapped Scalar.text)).get? a.token).getD []
        = (latest (pairsFor assignments a.token)).mapped Scalar.text := by
      rw [Entries.get?_mapped, ← getD_get?_keyedTables]
      cases (keyedTables assignments).get? a.token <;> rfl
    have hnew : keyedTables (assignments ++ [a]) = (keyedTables assignments).put a.token
        ((latest (pairsFor assignments a.token)).put a.key a.value) := by
      rw [keyedTables, keyedTables, Entries.put_tabulated (Entries.nodup_eraseDups _),
        List.map_append, List.map_singleton, Entries.eraseDups_concat]
      refine congrArg (tabulated _) (funext fun token => ?_)
      rw [pairsFor_concat]
      split
      case isTrue htoken => rw [Entries.latest_concat, htoken]
      case isFalse => rfl
    rw [List.foldl_append, ih, hnew, Entries.mapped_put, Entries.mapped_put]
    exact congrArg (fun table => Entries.put a.token (Entries.put a.key (.text a.value) table)
      ((keyedTables assignments).mapped (mapped Scalar.text))) hold

/-- Assignments for two tokens in turn: the tokens keep their order, and the last value counts. -/
example :
    keyedTables [⟨['a'], ['k'], ['1']⟩, ⟨['b'], ['k'], ['2']⟩, ⟨['a'], ['l'], ['3']⟩,
        ⟨['a'], ['k'], ['4']⟩]
      = [(['a'], [(['k'], ['4']), (['l'], ['3'])]), (['b'], [(['k'], ['2'])])] := by
  decide

/-! ## The body of a request -/

/-- A table as a record. -/
def tableValue (table : Entries Text) : Value :=
  .record (table.mapped .text)

/-- The description of a keyed filter as a record: its token and its values. -/
def specValue (spec : Text × Entries Text) : Value :=
  Service.recordValue [("token", .text spec.1), ("values", tableValue spec.2)]

/-- The pairs of assignments. -/
def pairsOf (assignments : List Assignment) : List (Text × Text) :=
  assignments.map fun a => (a.token, a.value)

/-- The body that asks the service for what the options ask for. -/
def EvaluateOptions.body (options : EvaluateOptions) : Value :=
  Service.recordValue
    [("formula", .text options.formula),
      ("values", tableValue (latest (pairsOf options.values))),
      ("staged", tableValue (latest (pairsOf options.staged))),
      ("keyed", .list ((keyedTables options.keyed).map specValue))]

/-- The request that the body is read as. -/
def EvaluateOptions.request (options : EvaluateOptions) : FormulaRequest where
  formula := options.formula
  values := (latest (pairsOf options.values)).mapped .text
  staged := (latest (pairsOf options.staged)).mapped .text
  keyed := keyedSpecs options.keyed

theorem entries_scalar_mapped (table : Entries Text) :
    Schema.entries Schema.scalar (mapped Value.text table)
      = .accepted (mapped Scalar.text table) := by
  induction table with
  | nil => rfl
  | cons entry rest ih =>
    rw [mapped, List.map_cons, Schema.entries]
    change (fun data more => (entry.1, data) :: more) <$> .accepted (Scalar.text entry.2) <*>
      Schema.entries Schema.scalar (mapped Value.text rest) = _
    rw [ih]
    rfl

/-- A table of distinct names is read back. -/
theorem table_tableValue {table : Entries Text} (h : (table.map Prod.fst).Nodup) :
    Schema.table Schema.scalar (tableValue table) = .accepted (mapped Scalar.text table) := by
  rw [← Entries.map_fst_mapped Value.text] at h
  rw [tableValue, Schema.table, Entries.ofPairs_of_nodup h, entries_scalar_mapped]

theorem optional_of_field? {α : Type} (name : String) {fields : Schema.Fields}
    {item : Schema.Reader α} {absent data : α} {value : Value}
    (hfield : Value.field? name (.record fields) = some value)
    (hitem : item value = .accepted data) :
    Schema.optional fields name item absent = .accepted data := by
  rw [Schema.optional, hfield]
  simp only [hitem]
  rfl

theorem record_specValue {spec : Text × Entries Text} (h : (spec.2.map Prod.fst).Nodup) :
    Schema.record KeyedSpec.ofFields (specValue spec)
      = .accepted { form := { token := spec.1 }, values := mapped Scalar.text spec.2 } := by
  rw [specValue, Service.recordValue, Schema.record, KeyedSpec.ofFields,
    optional_of_field? "values" rfl (table_tableValue h)]
  rfl

/-- Descriptions of keyed filters are read back, all of them. -/
theorem elementsFrom_specValue {specs : List (Text × Entries Text)}
    (h : ∀ spec ∈ specs, (spec.2.map Prod.fst).Nodup) (i : Nat) :
    Schema.elementsFrom (Schema.record KeyedSpec.ofFields) i (specs.map specValue)
      = .accepted (specs.map fun spec =>
          { form := { token := spec.1 }, values := mapped Scalar.text spec.2 }) := by
  induction specs generalizing i with
  | nil => rfl
  | cons spec rest ih =>
    obtain ⟨hspec, hrest⟩ := List.forall_mem_cons.mp h
    rw [List.map_cons, Schema.elementsFrom, record_specValue hspec, ih hrest]
    rfl

theorem keyedSpecs_eq (assignments : List KeyedAssignment) :
    keyedSpecs assignments = (keyedTables assignments).map fun spec =>
      { form := { token := spec.1 }, values := mapped Scalar.text spec.2 } := by
  rw [keyedSpecs, foldl_putKeyed_eq, mapped, List.map_map]
  rfl

/-- The body is accepted, as the request. -/
theorem record_body (options : EvaluateOptions) :
    Schema.record FormulaRequest.ofFields options.body = .accepted options.request := by
  have hspecs : ∀ spec ∈ keyedTables options.keyed, (spec.2.map Prod.fst).Nodup := by
    intro spec hspec
    obtain ⟨token, -, rfl⟩ := List.mem_map.mp hspec
    exact Entries.nodup_latest _
  have hkeyed : Schema.list (Schema.record KeyedSpec.ofFields)
      (.list ((keyedTables options.keyed).map specValue)) = .accepted options.request.keyed := by
    rw [Schema.list, elementsFrom_specValue hspecs, EvaluateOptions.request, keyedSpecs_eq]
  rw [EvaluateOptions.body, Service.recordValue, Schema.record, FormulaRequest.ofFields,
    optional_of_field? "values" rfl (table_tableValue (Entries.nodup_latest _)),
    optional_of_field? "staged" rfl (table_tableValue (Entries.nodup_latest _)),
    optional_of_field? "keyed" rfl hkeyed]
  rfl

theorem assignmentTable_eq (assignments : List Assignment) :
    assignmentTable assignments = mapped Value.text (latest (pairsOf assignments)) := by
  rw [← Entries.ofPairs_map_eq_latest, pairsOf, List.map_map]
  rfl

/-- The request describes the rack that the options describe. -/
theorem rack_request (options : EvaluateOptions) : options.request.rack = options.rack := by
  have htable : ∀ table : Entries Text,
      (mapped Scalar.text table).map (fun entry => (entry.1, entry.2.toValue))
        = mapped Value.text table := by
    intro table
    rw [mapped, List.map_map]
    rfl
  rw [FormulaRequest.rack, EvaluateOptions.rack, assignmentTable_eq, assignmentTable_eq]
  exact congrArg₂ (Rack.build · · options.request.keyed) (htable _) (htable _)

/-! ## Reports -/

/-- The log of evaluating a formula. -/
def evaluationLog (settings : Settings) (stamp : Text) (severity : Nat)
    (options : EvaluateOptions) : List Text :=
  (Event.atLeast severity
    (options.rack.built :: (options.rack.evaluateWhole settings.limits options.formula).events)).map
      (Event.line stamp)

/-- The command line reports what the service answers: that the formula has a value, and which one;
or the error, and the placeholders that are left, in one line if there are any. -/
structure Reports (log : List Text) (effect : Effect) (answer : Service.Answer) : Prop where
  status_eq : answer.status = 200
  finished_iff : (∃ output lines, effect = .finished 0 output lines) ↔
    answer.body.field? "success" = some (.bool true)
  value : answer.body.field? "success" = some (.bool true) →
    ∃ x, answer.body.field? "result" = some (Service.resultValue (some x)) ∧
      effect = .finished 0 [Number.plainText x] log
  error : answer.body.field? "success" ≠ some (.bool true) →
    ∃ message unresolved, answer.body.field? "error" = some (.text message) ∧
      answer.body.field? "unresolved" = some (Service.textsValue unresolved) ∧
      effect = .finished 1 [] (log ++ ("error: ".toList ++ message) ::
        if unresolved = [] then []
        else ["unresolved: ".toList ++ Text.join ", ".toList unresolved])

/-- What the command line reports of the record of an evaluation. -/
def effectOf (log : List Text) (e : Evaluation) : Effect :=
  match e.result with
  | some x => .finished 0 [Number.plainText x] log
  | none => .finished 1 [] (log ++ failureLines e)

/-- The command line reports the record that the evaluation leaves. -/
theorem evaluate_eq_effectOf {settings : Settings} {options : EvaluateOptions} {e : Evaluation}
    (h : (options.rack.evaluateWhole settings.limits options.formula).result = .ok e)
    (stamp : Text) (severity : Nat) :
    evaluate settings stamp severity options
      = effectOf (evaluationLog settings stamp severity options) e := by
  rw [evaluate]
  simp only [h]
  rfl

variable {log : List Text}

/-- A formula with a value. -/
theorem reports_of_ok (formula text : Text) (x : Float) :
    Reports log (effectOf log ⟨formula, some text, some x, none, []⟩)
      ⟨200, Service.evaluationValue ⟨formula, some text, some x, none, []⟩⟩ where
  status_eq := rfl
  finished_iff := ⟨fun _ => rfl, fun _ => ⟨_, _, rfl⟩⟩
  value := fun _ => ⟨x, rfl, rfl⟩
  error := fun h => absurd rfl h

/-- A formula without a value. -/
theorem reports_of_failed (formula : Text) (substituted : Option Text) (summary : Text) :
    Reports log (effectOf log (Rack.failedEvaluation formula substituted summary))
      ⟨200, Service.evaluationValue (Rack.failedEvaluation formula substituted summary)⟩ where
  status_eq := rfl
  finished_iff := ⟨nofun, nofun⟩
  value := nofun
  error := by
    refine fun _ => ⟨summary, _, rfl, rfl, ?_⟩
    simp only [effectOf, Rack.failedEvaluation, failureLines, List.isEmpty_iff]
    rfl

/-- The command line reports what the service answers to the request that the options stand for. -/
theorem evaluate_request_reports (settings : Settings) (stamp : Text) (severity : Nat)
    {options : EvaluateOptions} (hlength : options.formula.length ≤ settings.maxFormulaLength) :
    Reports (evaluationLog settings stamp severity options)
      (evaluate settings stamp severity options) (Service.evaluate settings options.request) := by
  obtain ⟨text, htext⟩ := options.request.substitute_rack
  have hformula : options.request.formula = options.formula := rfl
  rw [rack_request, hformula] at htext
  have hresult := Rack.evaluateWhole_of_substitute settings.limits htext
  rw [Service.evaluate, Service.measured_of_le hlength, rack_request, hformula,
    evaluate_eq_effectOf hresult, hresult]
  cases Formulary.evaluate settings.limits text with
  | ok x => exact reports_of_ok options.formula text x
  | error rejection => exact reports_of_failed options.formula (some text) rejection.line

/-- **The command line and the service compute the same thing.** The service accepts the body that
the options stand for, and the command line reports what it answers. -/
theorem evaluate_reports (settings : Settings) (stamp : Text) (severity : Nat)
    {options : EvaluateOptions} (hlength : options.formula.length ≤ settings.maxFormulaLength) :
    ∃ answer, Service.handle settings (.to .evaluate options.body) = pure answer ∧
      Reports (evaluationLog settings stamp severity options)
        (evaluate settings stamp severity options) answer :=
  ⟨_, (Service.handle_accepted settings (record_body options)).1,
    evaluate_request_reports settings stamp severity hlength⟩

/-- One token has a value twice, and keys of two tokens come in turn; a placeholder is left, so that
the formula has no value. -/
theorem evaluate_reports_leftOver :
    let options : EvaluateOptions :=
      { formula := "\x7bx\x7d+\x7ba:k\x7d+\x7by\x7d".toList
        values := [⟨"\x7bx\x7d".toList, ['1']⟩, ⟨"\x7bx\x7d".toList, ['2']⟩]
        keyed := [⟨['a'], ['k'], ['3']⟩, ⟨['b'], ['k'], ['4']⟩, ⟨['a'], ['k'], ['5']⟩] }
    ∃ answer, Service.handle .standard (.to .evaluate options.body) = pure answer ∧
      Reports (evaluationLog .standard [] 40 options) (evaluate .standard [] 40 options) answer ∧
      answer.body.field? "success" ≠ some (.bool true) := by
  intro options
  obtain ⟨answer, hanswer, hreports⟩ :=
    @evaluate_reports .standard [] 40 options (by decide)
  refine ⟨answer, hanswer, hreports, fun hsuccess => ?_⟩
  obtain ⟨output, lines, heffect⟩ := hreports.finished_iff.mpr hsuccess
  have hrun : (options.rack.evaluateWhole Settings.standard.limits
      options.formula).result.toOption.map Evaluation.result = some none := by decide +kernel
  obtain ⟨e, he, hnone⟩ := Option.map_eq_some_iff.mp hrun
  rw [evaluate_eq_effectOf (eq_ok_of_toOption he), effectOf, hnone] at heffect
  cases heffect

end Cli

end Formulary
