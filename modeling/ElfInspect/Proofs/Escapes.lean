import ElfInspect.Proofs.Printable
import ElfInspect.Proofs.ReportLines
import Mathlib.Data.List.Forall2

/-!
# Escape sequences

Painted texts have escape sequences in them: the escape character, a bracket, decimal digits and
the letter `m`. With its sequences deleted a painted text is the plain one, if the plain one has no
escape character. What follows the text does not matter to this, so that texts can be put together.
-/

namespace ElfInspect

/-- The text has no escape character in it. -/
def Unescaped (text : String) : Prop :=
  '\x1b' ∉ text.toList

instance (text : String) : Decidable (Unescaped text) :=
  inferInstanceAs (Decidable ('\x1b' ∉ text.toList))

@[simp] lemma unescaped_append {text more : String} :
    Unescaped (text ++ more) ↔ Unescaped text ∧ Unescaped more := by
  simp [Unescaped]

lemma Printable.unescaped {text : String} (h : Printable text) : Unescaped text :=
  h.not_mem (by decide)

/-- What stands behind the escape sequence that a text begins with. -/
def afterSequence? (text : List Char) : Option (List Char) :=
  match text with
  | '\x1b' :: '[' :: rest =>
    match rest.takeWhile Char.isDigit, rest.dropWhile Char.isDigit with
    | _ :: _, 'm' :: rest => some rest
    | _, _ => none
  | _ => none

lemma afterSequence?_eq_some_iff {text rest : List Char} :
    afterSequence? text = some rest ↔
      ∃ digits, digits ≠ [] ∧ (∀ digit ∈ digits, digit.isDigit) ∧
        text = '\x1b' :: '[' :: (digits ++ 'm' :: rest) := by
  constructor
  · intro h
    unfold afterSequence? at h
    split at h
    · rename_i behind
      split at h
      · rename_i first digits rest' htake hdrop
        cases h
        refine ⟨first :: digits, List.cons_ne_nil _ _, ?_, ?_⟩
        · rw [← htake]
          exact List.all_eq_true.mp List.all_takeWhile
        · rw [← htake, ← hdrop, List.takeWhile_append_dropWhile]
      · cases h
    · cases h
  · rintro ⟨digits, hne, hdigits, rfl⟩
    obtain ⟨first, digits, rfl⟩ := List.exists_cons_of_ne_nil hne
    have hstop : ¬('m').isDigit := by decide
    have htake : (first :: digits ++ 'm' :: rest).takeWhile Char.isDigit = first :: digits := by
      rw [List.takeWhile_append_of_pos hdigits, List.takeWhile_cons_of_neg hstop, List.append_nil]
    have hdrop : (first :: digits ++ 'm' :: rest).dropWhile Char.isDigit = 'm' :: rest := by
      rw [List.dropWhile_append_of_pos hdigits, List.dropWhile_cons_of_neg hstop]
    unfold afterSequence?
    simp only [htake, hdrop]

lemma length_lt_of_afterSequence? {text rest : List Char} (h : afterSequence? text = some rest) :
    rest.length < text.length := by
  obtain ⟨digits, -, -, rfl⟩ := afterSequence?_eq_some_iff.mp h
  simp only [List.length_cons, List.length_append]
  omega

/-- Deletes every escape sequence, from the front on. -/
def erase : List Char → List Char
  | [] => []
  | char :: text =>
    match _h : afterSequence? (char :: text) with
    | some rest => erase rest
    | none => char :: erase text
termination_by text => text.length
decreasing_by
  · exact length_lt_of_afterSequence? _h
  · exact Nat.lt_succ_self _

/-- The text without its escape sequences. -/
def unpainted (text : String) : String :=
  String.ofList (erase text.toList)

section Erase

variable {front rest text : List Char} {char : Char}

lemma erase_of_afterSequence? (h : afterSequence? text = some rest) : erase text = erase rest := by
  cases text with
  | nil => cases h
  | cons char text =>
    rw [erase]
    split
    · rename_i found hfound
      rw [hfound] at h
      cases h
      rfl
    · rename_i hnone
      rw [hnone] at h
      cases h

lemma erase_cons_of_ne (h : char ≠ '\x1b') : erase (char :: text) = char :: erase text := by
  rw [erase]
  split
  · rename_i rest hrest
    obtain ⟨digits, -, -, htext⟩ := afterSequence?_eq_some_iff.mp hrest
    exact (h (List.cons.inj htext).1).elim
  · rfl

lemma erase_append_of_not_mem (h : '\x1b' ∉ front) : erase (front ++ rest) = front ++ erase rest := by
  induction front with
  | nil => rfl
  | cons char front ih =>
    rw [List.mem_cons, not_or] at h
    rw [List.cons_append, erase_cons_of_ne (Ne.symm h.1), ih h.2, List.cons_append]

end Erase

/-- Without its escape sequences the painted text is the plain one, whatever follows both. -/
def Decorates (painted plain : String) : Prop :=
  ∀ rest, erase (painted.toList ++ rest) = plain.toList ++ erase rest

section Decorates

variable {painted plain painted' plain' text : String}

lemma Decorates.unpainted_eq (h : Decorates painted plain) : unpainted painted = plain := by
  have herase := h []
  have hnil : erase [] = [] := by rw [erase]
  rw [List.append_nil, hnil, List.append_nil] at herase
  rw [unpainted, herase, String.ofList_toList]

lemma Decorates.append (h : Decorates painted plain) (h' : Decorates painted' plain') :
    Decorates (painted ++ painted') (plain ++ plain') := by
  intro rest
  rw [String.toList_append, String.toList_append, List.append_assoc, h, h', List.append_assoc]

lemma Unescaped.decorates (h : Unescaped text) : Decorates text text :=
  fun _ => erase_append_of_not_mem h

lemma decorates_escape {code : String} (hne : code.toList ≠ [])
    (h : code.toList.all Char.isDigit = true) : Decorates (Paint.escape code) "" := by
  intro rest
  apply erase_of_afterSequence?
  rw [afterSequence?_eq_some_iff]
  refine ⟨code.toList, hne, List.all_eq_true.mp h, ?_⟩
  rw [Paint.escape, String.toList_append, String.toList_append, List.append_assoc,
    List.append_assoc]
  rfl

lemma decorates_apply (h : Unescaped text) (paint : Paint) (style : Style) :
    Decorates (paint.apply style text) text := by
  cases paint with
  | plain => exact h.decorates
  | ansi =>
    have hon : Decorates (Paint.escape style.code) "" := by
      cases style <;> exact decorates_escape (by decide) (by decide)
    have hoff : Decorates (Paint.escape "0") "" := decorates_escape (by decide) (by decide)
    have hpainted := (hon.append h.decorates).append hoff
    rwa [String.empty_append, String.append_empty] at hpainted

end Decorates

/-! ### Texts in a paint -/

/-- The paint of the text only decorates it: there are no escape characters in it without paint. -/
structure Decorated (text : Paint → String) : Prop where
  decorates : ∀ paint, Decorates (text paint) (text .plain)
  unescaped : Unescaped (text .plain)

/-- Deleting the escape sequences of the painted text gives the plain one, which has no escape
character. -/
def Bleaches (text : Paint → String) : Prop :=
  unpainted (text .ansi) = text .plain ∧ Unescaped (text .plain)

section Decorated

variable {text more : Paint → String} {fixed : String}

lemma Decorated.bleaches (h : Decorated text) : Bleaches text :=
  ⟨(h.decorates .ansi).unpainted_eq, h.unescaped⟩

lemma Decorated.append (h : Decorated text) (h' : Decorated more) :
    Decorated fun paint => text paint ++ more paint :=
  ⟨fun paint => (h.decorates paint).append (h'.decorates paint),
    unescaped_append.mpr ⟨h.unescaped, h'.unescaped⟩⟩

lemma Unescaped.decorated (h : Unescaped fixed) : Decorated fun _ => fixed :=
  ⟨fun _ => h.decorates, h⟩

lemma decorated_apply (h : Unescaped fixed) (style : Style) :
    Decorated fun paint => paint.apply style fixed :=
  ⟨fun paint => decorates_apply h paint style, h⟩

lemma decorated_unlines {lines : List (Paint → String)} (h : ∀ line ∈ lines, Decorated line) :
    Decorated fun paint => Report.unlines (lines.map fun line => line paint) := by
  have hbreak : Unescaped "\n" := by decide
  induction lines with
  | nil => exact Unescaped.decorated (by decide)
  | cons line lines ih =>
    obtain ⟨hline, hlines⟩ := List.forall_mem_cons.mp h
    simp only [List.map_cons, Report.unlines_cons]
    exact (hline.append hbreak.decorated).append (ih hlines)

end Decorated

end ElfInspect
