/-
Formulary.Proofs.AssignmentText — an assignment and its text determine each other.

An assignment is written with an equals sign behind its token, a keyed one with a colon behind its
token and an equals sign behind its key. The separators may occur in the parts as well, and the text
does not say which of several is the one that separates. That follows from where they may not occur:
no equals sign in a value, no colon in the token of a keyed assignment. With tokens and keys that
are not empty this is all that is needed. Such an assignment is read back from its text, no text has
two readings, and a text without one is refused by the name of the form that it lacks.

Cutting is described first, without regard to assignments: the cut at the first mark is the one with
no mark before it, the cut at the last mark the one with no mark behind it.
-/
import Formulary.Cli.Assignment

namespace Formulary

/-! ## Cutting at a mark -/

namespace Text

variable {mark : Char} {text before behind : Text}

theorem cutAtFirst?_of_not_mem (h : mark ∉ text) : cutAtFirst? mark text = none := by
  induction text with
  | nil => rfl
  | cons c rest ih =>
    obtain ⟨hc, hrest⟩ := List.ne_and_not_mem_of_not_mem_cons h
    rw [cutAtFirst?, if_neg (Ne.symm hc), ih hrest]
    rfl

theorem cutAtFirst?_append (h : mark ∉ before) (behind : Text) :
    cutAtFirst? mark (before ++ mark :: behind) = some (before, behind) := by
  induction before with
  | nil => rw [List.nil_append, cutAtFirst?, if_pos rfl]
  | cons c before ih =>
    obtain ⟨hc, hbefore⟩ := List.ne_and_not_mem_of_not_mem_cons h
    rw [List.cons_append, cutAtFirst?, if_neg (Ne.symm hc), ih hbefore]
    rfl

/-- The cut at the first mark is the one that has no mark before it. -/
theorem cutAtFirst?_eq_some_iff :
    cutAtFirst? mark text = some (before, behind) ↔
      mark ∉ before ∧ before ++ mark :: behind = text := by
  constructor
  · intro hcut
    by_cases hmem : mark ∈ text
    · obtain ⟨front, back, rfl, hfront⟩ := List.eq_append_cons_of_mem hmem
      rw [cutAtFirst?_append hfront] at hcut
      cases hcut
      exact ⟨hfront, rfl⟩
    · rw [cutAtFirst?_of_not_mem hmem] at hcut
      cases hcut
  · rintro ⟨hbefore, rfl⟩
    exact cutAtFirst?_append hbefore behind

theorem cutAtLast?_of_not_mem (h : mark ∉ text) : cutAtLast? mark text = none := by
  induction text with
  | nil => rfl
  | cons c rest ih =>
    obtain ⟨hc, hrest⟩ := List.ne_and_not_mem_of_not_mem_cons h
    rw [cutAtLast?, ih hrest]
    exact if_neg (Ne.symm hc)

theorem cutAtLast?_append (before : Text) (h : mark ∉ behind) :
    cutAtLast? mark (before ++ mark :: behind) = some (before, behind) := by
  induction before with
  | nil =>
    rw [List.nil_append, cutAtLast?, cutAtLast?_of_not_mem h]
    exact if_pos rfl
  | cons c before ih => rw [List.cons_append, cutAtLast?, ih]

/-- The cut at the last mark is the one that has no mark behind it. -/
theorem cutAtLast?_eq_some_iff :
    cutAtLast? mark text = some (before, behind) ↔
      mark ∉ behind ∧ before ++ mark :: behind = text := by
  constructor
  · intro hcut
    by_cases hmem : mark ∈ text
    · -- The last mark is the first one from behind.
      obtain ⟨back, front, htext, hback⟩ :=
        List.eq_append_cons_of_mem (List.mem_reverse.mpr hmem)
      have hsplit : text = front.reverse ++ mark :: back.reverse := by
        rw [← List.reverse_reverse text, htext]
        simp
      have hbehind : mark ∉ back.reverse := fun h => hback (List.mem_reverse.mp h)
      rw [hsplit, cutAtLast?_append _ hbehind] at hcut
      cases hcut
      exact ⟨hbehind, hsplit.symm⟩
    · rw [cutAtLast?_of_not_mem hmem] at hcut
      cases hcut
  · rintro ⟨hbehind, rfl⟩
    exact cutAtLast?_append before hbehind

end Text

/-! ## Reading assignments -/

/-- An assignment that its text determines: it has a token, and its value has no equals sign. -/
structure Assignment.IsReadable (a : Assignment) : Prop where
  token_ne_nil : a.token ≠ []
  value_unmarked : '=' ∉ a.value

/-- A keyed assignment that its text determines: it has a token, with no colon in it, and a key, and
its value has no equals sign. -/
structure KeyedAssignment.IsReadable (a : KeyedAssignment) : Prop where
  token_ne_nil : a.token ≠ []
  token_unmarked : ':' ∉ a.token
  key_ne_nil : a.key ≠ []
  value_unmarked : '=' ∉ a.value

namespace Assignment

variable {text : Text} {a : Assignment} {error : AssignmentError}

/-- What is read is the one assignment that is written so. -/
theorem ofText_eq_ok_iff : ofText text = .ok a ↔ a.IsReadable ∧ a.toText = text := by
  constructor
  · intro h
    rw [ofText] at h
    split at h
    case h_1 token value hcut =>
      obtain ⟨hvalue, htext⟩ := Text.cutAtLast?_eq_some_iff.mp hcut
      split at h
      case isTrue => cases h
      case isFalse htoken =>
        cases h
        exact ⟨⟨List.isEmpty_eq_false_iff.mp (Bool.eq_false_iff.mpr htoken), hvalue⟩, htext⟩
    case h_2 => cases h
  · rintro ⟨ha, rfl⟩
    rw [ofText, toText, Text.cutAtLast?_append a.token ha.value_unmarked]
    exact if_neg (by simpa using ha.token_ne_nil)

/-- There is one way in which a text can be refused. -/
theorem eq_notAssignment_of_ofText (h : ofText text = .error error) :
    error = .notAssignment text := by
  rw [ofText] at h
  split at h
  case h_1 =>
    split at h
    case isTrue => cases h; rfl
    case isFalse => cases h
  case h_2 => cases h; rfl

end Assignment

namespace KeyedAssignment

variable {text : Text} {a : KeyedAssignment} {error : AssignmentError}

/-- The assignment that a keyed one is read as first, with token and key in one. -/
def unkeyed (a : KeyedAssignment) : Assignment :=
  ⟨a.token ++ ':' :: a.key, a.value⟩

/-- The refusal of a text that is no keyed assignment: it may be no assignment at all. -/
def refusal (text : Text) : AssignmentError :=
  match Assignment.ofText text with
  | .ok _ => .notKeyed text
  | .error _ => .notAssignment text

theorem IsReadable.unkeyed (ha : a.IsReadable) : a.unkeyed.IsReadable where
  token_ne_nil := List.append_ne_nil_of_left_ne_nil ha.token_ne_nil _
  value_unmarked := ha.value_unmarked

/-- A text that is no assignment is no keyed one. -/
theorem ofText_of_error (h : Assignment.ofText text = .error error) :
    ofText text = .error error := by
  rw [ofText, h]
  rfl

/-- In a text that is an assignment, what stands for the token is cut once more. -/
theorem ofText_of_ok {b : Assignment} (h : Assignment.ofText text = .ok b) :
    ofText text
      = match Text.cutAtFirst? ':' b.token with
        | some (token, key) =>
          if token.isEmpty || key.isEmpty then .error (.notKeyed text)
          else .ok ⟨token, key, b.value⟩
        | none => .error (.notKeyed text) := by
  rw [ofText, h]
  rfl

/-- What is read is the one keyed assignment that is written so. -/
theorem ofText_eq_ok_iff : ofText text = .ok a ↔ a.IsReadable ∧ a.toText = text := by
  constructor
  · intro h
    cases hassignment : Assignment.ofText text with
    | error =>
      rw [ofText_of_error hassignment] at h
      cases h
    | ok b =>
      obtain ⟨hb, rfl⟩ := Assignment.ofText_eq_ok_iff.mp hassignment
      rw [ofText_of_ok hassignment] at h
      split at h
      case h_1 token key hcut =>
        obtain ⟨htoken, hwhole⟩ := Text.cutAtFirst?_eq_some_iff.mp hcut
        split at h
        case isTrue => cases h
        case isFalse hparts =>
          cases h
          simp only [Bool.or_eq_true, List.isEmpty_iff, not_or] at hparts
          refine ⟨⟨hparts.1, htoken, hparts.2, hb.value_unmarked⟩, ?_⟩
          rw [toText, Assignment.toText, hwhole]
      case h_2 => cases h
  · rintro ⟨ha, rfl⟩
    have hunkeyed : Assignment.ofText a.toText = .ok a.unkeyed :=
      Assignment.ofText_eq_ok_iff.mpr ⟨ha.unkeyed, rfl⟩
    have hcut : Text.cutAtFirst? ':' a.unkeyed.token = some (a.token, a.key) :=
      Text.cutAtFirst?_append ha.token_unmarked a.key
    rw [ofText_of_ok hunkeyed, hcut]
    exact if_neg (by simp [ha.token_ne_nil, ha.key_ne_nil])

/-- A text is refused by the first form that it lacks. -/
theorem eq_refusal_of_ofText (h : ofText text = .error error) : error = refusal text := by
  rw [refusal]
  cases hassignment : Assignment.ofText text with
  | error other =>
    rw [ofText_of_error hassignment] at h
    cases h
    exact Assignment.eq_notAssignment_of_ofText hassignment
  | ok b =>
    rw [ofText_of_ok hassignment] at h
    split at h
    case h_1 =>
      split at h
      case isTrue => cases h; rfl
      case isFalse => cases h
    case h_2 => cases h; rfl

end KeyedAssignment

/-! ## Both directions -/

/-- Reading and writing undo each other on what is readable, and every other text is refused. -/
structure ReadsBack {α : Type} (read : Text → Except AssignmentError α) (write : α → Text)
    (IsReadable : α → Prop) (refusal : Text → AssignmentError) : Prop where
  read_write : ∀ a, IsReadable a → read (write a) = .ok a
  /-- What is read is readable, and written as it was. -/
  write_read : ∀ text a, read text = .ok a → IsReadable a ∧ write a = text
  /-- No text has two readings. -/
  unique : ∀ a b, IsReadable a → IsReadable b → write a = write b → a = b
  /-- The texts without a reading are refused, and no others. -/
  refused_iff : ∀ text error, read text = .error error ↔
    error = refusal text ∧ ∀ a, IsReadable a → write a ≠ text

/-- It is enough to know what is read from which text, and how texts are refused. -/
theorem ReadsBack.of_ok_iff {α : Type} {read : Text → Except AssignmentError α} {write : α → Text}
    {IsReadable : α → Prop} {refusal : Text → AssignmentError}
    (hok : ∀ text a, read text = .ok a ↔ IsReadable a ∧ write a = text)
    (herror : ∀ text error, read text = .error error → error = refusal text) :
    ReadsBack read write IsReadable refusal where
  read_write a ha := (hok (write a) a).mpr ⟨ha, rfl⟩
  write_read text a h := (hok text a).mp h
  unique a b ha hb heq := by
    have hread := (hok (write b) a).mpr ⟨ha, heq⟩
    rw [(hok (write b) b).mpr ⟨hb, rfl⟩] at hread
    exact (Except.ok.inj hread).symm
  refused_iff text error := by
    constructor
    · intro h
      refine ⟨herror text error h, fun a ha htext => ?_⟩
      rw [(hok text a).mpr ⟨ha, htext⟩] at h
      cases h
    · rintro ⟨rfl, hnone⟩
      cases h : read text with
      | ok a =>
        obtain ⟨ha, htext⟩ := (hok text a).mp h
        exact absurd htext (hnone a ha)
      | error other => rw [herror text other h]

/-- **Assignments and their texts determine each other**, for every text, keyed or not. -/
theorem ofText_readsBack :
    ReadsBack Assignment.ofText Assignment.toText Assignment.IsReadable .notAssignment ∧
      ReadsBack KeyedAssignment.ofText KeyedAssignment.toText KeyedAssignment.IsReadable
        KeyedAssignment.refusal :=
  ⟨.of_ok_iff (fun _ _ => Assignment.ofText_eq_ok_iff)
      (fun _ _ => Assignment.eq_notAssignment_of_ofText),
    .of_ok_iff (fun _ _ => KeyedAssignment.ofText_eq_ok_iff)
      (fun _ _ => KeyedAssignment.eq_refusal_of_ofText)⟩

/-- A token may hold equals signs, a key both separators. -/
example : KeyedAssignment.ofText "a=b:c:d=e=f:g".toList
    = .ok ⟨"a=b".toList, "c:d=e".toList, "f:g".toList⟩ :=
  rfl

end Formulary
