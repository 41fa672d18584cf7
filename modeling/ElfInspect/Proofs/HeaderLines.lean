import ElfInspect.Proofs.Numerals
import ElfInspect.Proofs.Printable
import ElfInspect.Proofs.ReportLines
import Mathlib.Data.List.Forall2

/-!
# The lines of the header report

The header report has a title, a line of identification bytes and a line for each labelled value,
with the values below each other. Every field of the header stands in it as a numeral, so that
different headers have different reports.
-/

namespace ElfInspect.Report

open Numeral

/-! ### Values -/

lemma space_not_mem_decimal (n : Nat) : ' ' ∉ (decimal n).toList :=
  not_mem_decimal (fun _ => Nat.digitChar_ne ' ' rfl) n

lemma space_not_mem_markedHex (n : Nat) : ' ' ∉ (markedHex n).toList :=
  not_mem_markedHex (fun _ => Nat.digitChar_ne ' ' rfl) (by decide) n

/-- A value can be told from a note that follows it in parentheses. -/
lemma noted_inj {value value' note note' : String} (h : ' ' ∉ value.toList)
    (h' : ' ' ∉ value'.toList) (heq : value ++ " (" ++ note = value' ++ " (" ++ note') :
    value = value' := by
  rw [String.append_assoc, String.append_assoc] at heq
  exact (append_append_inj (by decide) h h' heq).1

lemma labeled_injective (table : LabelTable) : Function.Injective (labeled table) := by
  intro code code' h
  have hnoted := (String.append_left_inj ")").mp h
  exact decimal_injective (noted_inj (space_not_mem_decimal _) (space_not_mem_decimal _) hnoted)

/-- Every field behind the identification is among the labelled values. -/
lemma eq_of_headerFields_eq {fileHeader fileHeader' : FileHeader}
    (hident : fileHeader.ident = fileHeader'.ident)
    (h : headerFields fileHeader = headerFields fileHeader') : fileHeader = fileHeader' := by
  simp only [headerFields, List.cons.injEq, Prod.mk.injEq, true_and, and_true,
    String.append_left_inj, (labeled_injective _).eq_iff, decimal_injective.eq_iff,
    markedHex_injective.eq_iff, UInt16.toNat_inj, UInt32.toNat_inj, UInt64.toNat_inj] at h
  obtain ⟨-, -, -, -, -, htype, hmachine, hnoted, hentry, hphoff, hshoff, hflags, hehsize,
    hphentsize, hphnum, hshentsize, hshnum, hshstrndx⟩ := h
  have hversion := markedHex_injective
    (noted_inj (space_not_mem_markedHex _) (space_not_mem_markedHex _) hnoted)
  cases fileHeader
  cases fileHeader'
  simp only [FileHeader.mk.injEq]
  exact ⟨hident, htype, hmachine, UInt32.toNat_inj.mp hversion, hentry, hphoff, hshoff, hflags,
    hehsize, hphentsize, hphnum, hshentsize, hshnum, hshstrndx⟩

/-- The text of a value: it begins with a digit and has no break in it. -/
structure IsValue (text : String) : Prop where
  oneLine : OneLine text
  digit : ∃ first rest, text.toList = first :: rest ∧ first.isDigit = true

/-- The text of a value as all values are: printable behind its first digit too. -/
structure IsPrintedValue (text : String) : Prop where
  printable : Printable text
  digit : ∃ first rest, text.toList = first :: rest ∧ first.isDigit = true

lemma IsPrintedValue.isValue {text : String} (h : IsPrintedValue text) : IsValue text :=
  ⟨h.printable.oneLine, h.digit⟩

lemma isPrintedValue_decimal (n : Nat) : IsPrintedValue (decimal n) := by
  obtain ⟨first, rest, hdigits⟩ :=
    List.exists_cons_of_ne_nil (Nat.toDigits_ne_nil (n := n) (b := 10))
  refine ⟨printable_decimal n, first, rest, by rw [toList_decimal, hdigits], ?_⟩
  apply Nat.isDigit_of_mem_toDigits (b := 10) (n := n) (by omega) (by omega)
  rw [hdigits]
  exact List.mem_cons_self

lemma isPrintedValue_markedHex (n : Nat) : IsPrintedValue (markedHex n) :=
  ⟨printable_markedHex n, '0', 'x' :: (hex n).toList, String.toList_append, rfl⟩

lemma IsPrintedValue.append {text more : String} (h : IsPrintedValue text)
    (hmore : Printable more) : IsPrintedValue (text ++ more) := by
  obtain ⟨first, rest, htext, hdigit⟩ := h.digit
  refine ⟨printable_append.mpr ⟨h.printable, hmore⟩, first, rest ++ more.toList, ?_, hdigit⟩
  rw [String.toList_append, htext, List.cons_append]

lemma IsPrintedValue.noted {text : String} (h : IsPrintedValue text) {table : LabelTable}
    (htable : ∀ entry ∈ table, Printable entry.2) (code : Int) :
    IsPrintedValue (text ++ " (" ++ table.label code ++ ")") :=
  ((h.append (by decide)).append (LabelTable.printable_label htable code)).append (by decide)

lemma isPrintedValue_labeled {table : LabelTable} (htable : ∀ entry ∈ table, Printable entry.2)
    (code : Nat) : IsPrintedValue (labeled table code) :=
  (isPrintedValue_decimal code).noted htable code

lemma isPrintedValue_of_mem_headerFields (fileHeader : FileHeader) :
    ∀ field ∈ headerFields fileHeader, IsPrintedValue field.2 := by
  have htables := FileHeader.printable_of_mem_tables
  simp only [List.forall_mem_cons] at htables
  obtain ⟨hclasses, hencodings, hversions, hosAbis, hfileTypes, hmachines, -⟩ := htables
  have hbytes : Printable " (bytes)" := by decide
  have hbytesIn : Printable " (bytes into file)" := by decide
  have hnumber := isPrintedValue_decimal
  have haddress := isPrintedValue_markedHex
  simp only [headerFields, List.forall_mem_cons]
  exact ⟨isPrintedValue_labeled hclasses _, isPrintedValue_labeled hencodings _,
    isPrintedValue_labeled hversions _, isPrintedValue_labeled hosAbis _, hnumber _,
    isPrintedValue_labeled hfileTypes _, isPrintedValue_labeled hmachines _,
    (haddress _).noted hversions _, haddress _, (hnumber _).append hbytesIn,
    (hnumber _).append hbytesIn, haddress _, (hnumber _).append hbytes, (hnumber _).append hbytes,
    hnumber _, (hnumber _).append hbytes, hnumber _, hnumber _, List.forall_mem_nil _⟩

/-! ### Labels -/

/-- The labels of the values in their order. -/
def headerLabels : List String := [
  "Class", "Data", "Version", "OS/ABI", "ABI Version", "Type", "Machine", "Version",
  "Entry point address", "Start of program headers", "Start of section headers", "Flags",
  "Size of this header", "Size of program headers", "Number of program headers",
  "Size of section headers", "Number of section headers", "Section header string table index"]

lemma map_fst_headerFields (fileHeader : FileHeader) :
    (headerFields fileHeader).map Prod.fst = headerLabels :=
  rfl

/-- With its colon a label is shorter than the width that it is filled up to. -/
lemma length_lt_of_mem_headerLabels :
    ∀ label ∈ headerLabels, Printable label ∧ label.length + 1 < labelWidth := by
  simp [headerLabels, Printable, labelWidth, ← String.length_toList]

/-- The label stands behind a margin, with a colon and at least one blank after it, and the value
begins at the column. -/
def Aligned (column : Nat) (field : String × String) (line : String) : Prop :=
  ∃ blanks, 0 < blanks ∧
    line = "  " ++ field.1 ++ ":" ++ String.ofList (List.replicate blanks ' ') ++ field.2 ∧
    ("  " ++ field.1 ++ ":").length + blanks = column ∧ IsValue field.2

lemma aligned_fieldLine {field : String × String} (hlabel : field.1.length + 1 < labelWidth)
    (hvalue : IsValue field.2) : Aligned 37 field (fieldLine .plain field) := by
  unfold labelWidth at hlabel
  refine ⟨35 - (field.1.length + 1), by omega, ?_, ?_, hvalue⟩
  · rw [← String.toList_inj]
    simp [fieldLine, Paint.apply, fillRight, List.rightpad, labelWidth, String.length_toList]
  · have hmargin : "  ".length = 2 := rfl
    have hcolon : ":".length = 1 := rfl
    rw [String.length_append, String.length_append, hmargin, hcolon]
    omega

/-! ### Lines -/

section Lines

variable (paint : Paint)

lemma oneLine_fieldLine {field : String × String} :
    OneLine (fieldLine paint field) ↔ OneLine field.1 ∧ OneLine field.2 := by
  have hmargin : OneLine "  " := by decide
  have hcolon : OneLine ":" := by decide
  simp [fieldLine, hmargin, hcolon]

lemma of_mem_headerFields {fileHeader : FileHeader} {field : String × String}
    (h : field ∈ headerFields fileHeader) :
    Printable field.1 ∧ field.1.length + 1 < labelWidth ∧ IsPrintedValue field.2 := by
  have hlabel : field.1 ∈ headerLabels :=
    map_fst_headerFields fileHeader ▸ List.mem_map_of_mem h
  obtain ⟨hprintable, hlength⟩ := length_lt_of_mem_headerLabels _ hlabel
  exact ⟨hprintable, hlength, isPrintedValue_of_mem_headerFields fileHeader field h⟩

lemma oneLine_of_mem_headerLines (fileHeader : FileHeader) :
    ∀ line ∈ headerLines paint fileHeader, OneLine line := by
  have htitle : OneLine (paint.apply .bold "ELF Header:") :=
    (paint.oneLine_apply .bold).mpr (by decide)
  have hmagic : OneLine (magicLine paint fileHeader) := by
    have hmargin : OneLine "  " := by decide
    have hlabel : OneLine "Magic:" := by decide
    have hgap : OneLine "   " := by decide
    simp [magicLine, hmargin, hlabel, hgap]
  rw [headerLines, List.forall_mem_cons, List.forall_mem_cons, List.forall_mem_map]
  refine ⟨htitle, hmagic, ?_⟩
  intro field hfield
  obtain ⟨hlabel, -, hvalue⟩ := of_mem_headerFields hfield
  exact (oneLine_fieldLine paint).mpr ⟨hlabel.oneLine, hvalue.printable.oneLine⟩

/-- Lines with the same labels are told apart by their values. -/
lemma map_fieldLine_inj {fields fields' : List (String × String)}
    (hlabels : fields.map Prod.fst = fields'.map Prod.fst)
    (h : fields.map (fieldLine paint) = fields'.map (fieldLine paint)) : fields = fields' := by
  induction fields generalizing fields' with
  | nil => exact (List.map_eq_nil_iff.mp hlabels.symm).symm
  | cons field fields ih =>
    cases fields' with
    | nil => cases hlabels
    | cons field' fields' =>
      obtain ⟨label, value⟩ := field
      obtain ⟨label', value'⟩ := field'
      obtain ⟨hlabel, hrest⟩ := List.cons.inj hlabels
      obtain ⟨hline, hlines⟩ := List.cons.inj h
      cases hlabel
      have hvalue : value = value' := (String.append_right_inj _).mp hline
      rw [hvalue, ih hrest hlines]

lemma headerLines_injective : Function.Injective (headerLines paint) := by
  intro fileHeader fileHeader' h
  obtain ⟨-, h⟩ := List.cons.inj h
  obtain ⟨hmagic, hfields⟩ := List.cons.inj h
  have hbytes := hexBytes_injective ((String.append_right_inj _).mp hmagic)
  have hlabels := (map_fst_headerFields fileHeader).trans (map_fst_headerFields fileHeader').symm
  exact eq_of_headerFields_eq (Vector.toList_inj.mp hbytes)
    (map_fieldLine_inj paint hlabels hfields)

end Lines

/-- Different headers have different reports, painted or not. Each report has twenty lines, and in
a plain one the values of the labelled lines all begin at the same column. -/
theorem header_injective_aligned (paint : Paint) :
    Function.Injective (header paint) ∧
    ∀ fileHeader, ∃ lines, header paint fileHeader = unlines lines ∧ lines.length = 20 ∧
      (∀ line ∈ lines, OneLine line) ∧
      (headerFields fileHeader).map Prod.fst = headerLabels ∧ headerLabels.length = 18 ∧
      (paint = .plain → List.Forall₂ (Aligned 37) (headerFields fileHeader) (lines.drop 2)) := by
  constructor
  · intro fileHeader fileHeader' h
    exact headerLines_injective paint (unlines_inj (oneLine_of_mem_headerLines paint fileHeader)
      (oneLine_of_mem_headerLines paint fileHeader') h)
  · intro fileHeader
    refine ⟨headerLines paint fileHeader, rfl, length_headerLines paint fileHeader,
      oneLine_of_mem_headerLines paint fileHeader, map_fst_headerFields fileHeader, rfl, ?_⟩
    rintro rfl
    have hdrop : (headerLines .plain fileHeader).drop 2 =
        (headerFields fileHeader).map (fieldLine .plain) := rfl
    rw [hdrop, List.forall₂_map_right_iff, List.forall₂_same]
    intro field hfield
    obtain ⟨-, hlabel, hvalue⟩ := of_mem_headerFields hfield
    exact aligned_fieldLine hlabel hvalue.isValue

end ElfInspect.Report
