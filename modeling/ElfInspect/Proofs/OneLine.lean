import ElfInspect.Label
import ElfInspect.Text.Numeral
import Mathlib.Tactic.Lemma

/-!
# Texts on one line

A text is on one line if it has no break in it. Numerals are, for they have only digits in them, and
a character that is no digit marks where a numeral ends. What holds of the words of a table holds of
its labels.
-/

namespace ElfInspect

/-- The text has no break in it. -/
def OneLine (text : String) : Prop :=
  '\n' ∉ text.toList

instance (text : String) : Decidable (OneLine text) :=
  inferInstanceAs (Decidable ('\n' ∉ text.toList))

@[simp] lemma oneLine_append {text more : String} :
    OneLine (text ++ more) ↔ OneLine text ∧ OneLine more := by
  simp [OneLine]

/-- What stands in front of the first mark is one thing, and so is what stands behind it. -/
lemma append_cons_inj {text text' rest rest' : List Char} {mark : Char} (h : mark ∉ text)
    (h' : mark ∉ text') (heq : text ++ mark :: rest = text' ++ mark :: rest') :
    text = text' ∧ rest = rest' := by
  obtain ⟨more, rfl, hmore⟩ | ⟨more, rfl, hmore⟩ := List.append_eq_append_iff.mp heq
  · cases more with
    | nil => exact ⟨(List.append_nil text).symm, (List.cons.inj hmore).2⟩
    | cons first more =>
      rw [(List.cons.inj hmore).1] at h'
      exact (h' (List.mem_append_right _ List.mem_cons_self)).elim
  · cases more with
    | nil => exact ⟨List.append_nil text', (List.cons.inj hmore).2.symm⟩
    | cons first more =>
      rw [(List.cons.inj hmore).1] at h
      exact (h (List.mem_append_right _ List.mem_cons_self)).elim

/-- What stands in front of a lead is one thing if the mark that the lead begins with is not in it,
and so is what stands behind. -/
lemma append_append_inj {value value' rest rest' lead : String} {mark : Char}
    (hlead : lead.toList.head? = some mark) (h : mark ∉ value.toList) (h' : mark ∉ value'.toList)
    (heq : value ++ (lead ++ rest) = value' ++ (lead ++ rest')) :
    value = value' ∧ rest = rest' := by
  obtain ⟨more, hmore⟩ := List.head?_eq_some_iff.mp hlead
  have hchars := congrArg String.toList heq
  simp only [String.toList_append, hmore, List.cons_append] at hchars
  obtain ⟨hvalue, hrest⟩ := append_cons_inj h h' hchars
  exact ⟨String.toList_inj.mp hvalue, String.toList_inj.mp (List.append_cancel_left hrest)⟩

/-- A numeral has only digits of its base in it. -/
lemma exists_of_mem_toDigits {base : Nat} (h : 1 < base) {n : Nat} {char : Char}
    (hmem : char ∈ Nat.toDigits base n) : ∃ digit < base, digit.digitChar = char := by
  induction n using Nat.strongRecOn with
  | ind n ih =>
    rw [Nat.toDigits_eq_if h] at hmem
    by_cases hlt : n < base
    · rw [if_pos hlt, List.mem_singleton] at hmem
      exact ⟨n, hlt, hmem.symm⟩
    · rw [if_neg hlt, List.mem_append, List.mem_singleton] at hmem
      rcases hmem with hfront | hlast
      · exact ih (n / base) (Nat.div_lt_self (by omega) h) hfront
      · exact ⟨n % base, Nat.mod_lt n (by omega), hlast.symm⟩

/-- A character that is no digit stands in no numeral. -/
lemma not_mem_toDigits {char : Char} (hchar : ∀ n, Nat.digitChar n ≠ char) {base : Nat}
    (h : 1 < base) (n : Nat) : char ∉ Nat.toDigits base n := by
  intro hmem
  obtain ⟨digit, -, hdigit⟩ := exists_of_mem_toDigits h hmem
  exact hchar digit hdigit

namespace Numeral

lemma not_mem_decimal {char : Char} (hchar : ∀ n, Nat.digitChar n ≠ char) (n : Nat) :
    char ∉ (decimal n).toList := by
  rw [toList_decimal]
  exact not_mem_toDigits hchar (by omega) n

lemma not_mem_hex {char : Char} (hchar : ∀ n, Nat.digitChar n ≠ char) (n : Nat) :
    char ∉ (hex n).toList := by
  rw [toList_hex]
  exact not_mem_toDigits hchar (by omega) n

lemma not_mem_markedHex {char : Char} (hchar : ∀ n, Nat.digitChar n ≠ char)
    (hmark : char ∉ "0x".toList) (n : Nat) : char ∉ (markedHex n).toList := by
  rw [markedHex, String.toList_append, List.mem_append, not_or]
  exact ⟨hmark, not_mem_hex hchar n⟩

@[simp] lemma oneLine_decimal (n : Nat) : OneLine (decimal n) :=
  not_mem_decimal (fun _ => Nat.digitChar_ne '\n' rfl) n

@[simp] lemma oneLine_hex (n : Nat) : OneLine (hex n) :=
  not_mem_hex (fun _ => Nat.digitChar_ne '\n' rfl) n

@[simp] lemma oneLine_markedHex (n : Nat) : OneLine (markedHex n) :=
  not_mem_markedHex (fun _ => Nat.digitChar_ne '\n' rfl) (by decide) n

@[simp] lemma oneLine_fillLeft {filler : Char} (h : filler ≠ '\n') {width : Nat} {text : String} :
    OneLine (fillLeft filler width text) ↔ OneLine text := by
  simp [OneLine, fillLeft, List.leftpad, h.symm]

@[simp] lemma oneLine_fillRight {filler : Char} (h : filler ≠ '\n') {width : Nat} {text : String} :
    OneLine (fillRight filler width text) ↔ OneLine text := by
  simp [OneLine, fillRight, List.rightpad, h.symm]

@[simp] lemma oneLine_paddedHex (width n : Nat) : OneLine (paddedHex width n) :=
  (oneLine_fillLeft (by decide)).mpr (oneLine_hex n)

@[simp] lemma oneLine_hexBytes (bytes : List UInt8) : OneLine (hexBytes bytes) := by
  unfold hexBytes
  induction bytes with
  | nil => decide
  | cons byte bytes ih =>
    cases bytes with
    | nil => simp
    | cons next bytes =>
      rw [List.map_cons, List.map_cons, String.intercalate_cons_cons]
      simp only [oneLine_append, oneLine_paddedHex, true_and]
      exact ⟨by decide, ih⟩

end Numeral

/-- What holds of all words of a table holds of every label. -/
lemma LabelTable.of_forall (P : String → Prop) {table : LabelTable} (hunknown : P unknown)
    (h : ∀ entry ∈ table, P entry.2) (code : Int) : P (table.label code) := by
  induction table with
  | nil => exact hunknown
  | cons entry table ih =>
    obtain ⟨hentry, htable⟩ := List.forall_mem_cons.mp h
    rw [label_cons]
    split
    · exact hentry
    · exact ih htable

end ElfInspect
