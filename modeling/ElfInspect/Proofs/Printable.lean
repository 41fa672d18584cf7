import ElfInspect.FileHeader.Label
import ElfInspect.Proofs.OneLine
import ElfInspect.Section.Summary
import ElfInspect.Text.Width

/-!
# Printable texts

A text of printable characters of ASCII has neither breaks nor escape sequences in it, and it is
as wide as it is long. Numerals and labels are such texts, and so is all that a report says about a
section but its name.
-/

namespace ElfInspect

/-- All characters of the text are printable ones of ASCII. -/
def Printable (text : String) : Prop :=
  ∀ char ∈ text.toList, 0x20 ≤ char.toNat ∧ char.toNat ≤ 0x7e

-- Not left to be inferred: characters are finitely many, and nobody wants to go through them all.
instance (text : String) : Decidable (Printable text) :=
  List.decidableBAll (fun char : Char => 0x20 ≤ char.toNat ∧ char.toNat ≤ 0x7e) text.toList

section Texts

variable {text more : String}

@[simp] lemma printable_append : Printable (text ++ more) ↔ Printable text ∧ Printable more := by
  simp only [Printable, String.toList_append, List.forall_mem_append]

lemma Printable.not_mem (h : Printable text) {mark : Char} (hmark : mark.toNat < 0x20) :
    mark ∉ text.toList := by
  intro hmem
  have hle := (h mark hmem).1
  omega

lemma Printable.oneLine (h : Printable text) : OneLine text :=
  h.not_mem (by decide)

lemma Printable.ofChars_eq (h : Printable text) :
    Width.ofChars text.toList = text.toList.length := by
  apply Width.ofChars_of_le
  intro char hchar
  have hle := (h char hchar).2
  omega

end Texts

namespace Numeral

lemma printable_digitChar (n : Nat) :
    0x20 ≤ n.digitChar.toNat ∧ n.digitChar.toNat ≤ 0x7e := by
  have hsmall : ∀ n < 16, 0x20 ≤ n.digitChar.toNat ∧ n.digitChar.toNat ≤ 0x7e := by decide
  by_cases hlt : n < 16
  · exact hsmall n hlt
  · have hstar : n.digitChar = '*' := by
      simp (disch := omega) only [Nat.digitChar, if_neg]
    rw [hstar]
    decide

lemma printable_toDigits {base : Nat} (h : 1 < base) (n : Nat) :
    ∀ char ∈ Nat.toDigits base n, 0x20 ≤ char.toNat ∧ char.toNat ≤ 0x7e := by
  intro char hmem
  obtain ⟨digit, -, rfl⟩ := exists_of_mem_toDigits h hmem
  exact printable_digitChar digit

@[simp] lemma printable_decimal (n : Nat) : Printable (decimal n) := by
  rw [Printable, toList_decimal]
  exact printable_toDigits (by omega) n

@[simp] lemma printable_hex (n : Nat) : Printable (hex n) := by
  rw [Printable, toList_hex]
  exact printable_toDigits (by omega) n

@[simp] lemma printable_markedHex (n : Nat) : Printable (markedHex n) :=
  printable_append.mpr ⟨by decide, printable_hex n⟩

lemma printable_fillLeft {filler : Char} (hfiller : 0x20 ≤ filler.toNat ∧ filler.toNat ≤ 0x7e)
    {text : String} (h : Printable text) (width : Nat) :
    Printable (fillLeft filler width text) := by
  rw [Printable, fillLeft, String.toList_ofList, List.leftpad, List.forall_mem_append]
  refine ⟨fun char hmem => ?_, h⟩
  rw [List.eq_of_mem_replicate hmem]
  exact hfiller

lemma printable_fillRight {filler : Char} (hfiller : 0x20 ≤ filler.toNat ∧ filler.toNat ≤ 0x7e)
    {text : String} (h : Printable text) (width : Nat) :
    Printable (fillRight filler width text) := by
  rw [Printable, fillRight, String.toList_ofList, List.rightpad, List.forall_mem_append]
  refine ⟨h, fun char hmem => ?_⟩
  rw [List.eq_of_mem_replicate hmem]
  exact hfiller

@[simp] lemma printable_paddedHex (width n : Nat) : Printable (paddedHex width n) :=
  printable_fillLeft (by decide) (printable_hex n) width

@[simp] lemma printable_hexBytes (bytes : List UInt8) : Printable (hexBytes bytes) := by
  unfold hexBytes
  induction bytes with
  | nil => decide
  | cons byte bytes ih =>
    cases bytes with
    | nil => simp
    | cons next bytes =>
      rw [List.map_cons, List.map_cons, String.intercalate_cons_cons, printable_append,
        printable_append]
      exact ⟨⟨printable_paddedHex 2 _, by decide⟩, ih⟩

end Numeral

/-! ### Labels -/

lemma LabelTable.printable_label {table : LabelTable} (h : ∀ entry ∈ table, Printable entry.2)
    (code : Int) : Printable (table.label code) :=
  of_forall Printable (by decide) h code

/-- The words for the fields of a file header are printable. -/
lemma FileHeader.printable_of_mem_tables :
    ∀ table ∈ [classes, encodings, versions, osAbis, fileTypes, machines],
      ∀ entry ∈ table, Printable entry.2 := by
  decide +kernel

/-- The words for the type and the flags are those for some type and some flags. -/
structure SectionSummary.Labelled (summary : SectionSummary) : Prop where
  kind : ∃ code, summary.kind = SectionHeader.typeLabel code
  flags : ∃ flags, summary.flags = SectionHeader.flagLetters flags

lemma SectionSummary.labelled_ofHeader (names : NameTable) (index : Nat) (sh : SectionHeader) :
    (ofHeader names index sh).Labelled :=
  ⟨⟨sh.type, rfl⟩, ⟨sh.flags, rfl⟩⟩

namespace SectionHeader

lemma printable_typeLabel (code : UInt32) : Printable (typeLabel code) :=
  LabelTable.printable_label (by simp [sectionTypes, Printable]) _

lemma space_not_mem_typeLabel (code : UInt32) : ' ' ∉ (typeLabel code).toList :=
  LabelTable.of_forall (fun text => ' ' ∉ text.toList) (by decide) (by simp [sectionTypes]) _

lemma forall_mem_flagLetters (P : Char → Prop) (h : ∀ entry ∈ flagTable, P entry.2)
    (flags : UInt64) : ∀ char ∈ (flagLetters flags).toList, P char := by
  rw [flagLetters, String.toList_ofList, List.forall_mem_map]
  exact fun entry hentry => h entry (List.mem_filter.mp hentry).1

lemma printable_flagLetters (flags : UInt64) : Printable (flagLetters flags) :=
  forall_mem_flagLetters _ (by decide) flags

lemma space_not_mem_flagLetters (flags : UInt64) : ' ' ∉ (flagLetters flags).toList :=
  fun hmem => forall_mem_flagLetters (· ≠ ' ') (by decide) flags _ hmem rfl

end SectionHeader

end ElfInspect
