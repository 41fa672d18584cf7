import ElfInspect.Proofs.HeaderLines
import ElfInspect.Proofs.Messages
import ElfInspect.Proofs.Postconditions

/-!
# Messages told apart

The defects that an analysis can stop at, and their messages. A message begins with words that
belong to one kind of defect alone, up to its first number or colon, and behind them the numbers
can be read back one after another. So a message is that of one defect only, with all its fields.
-/

namespace ElfInspect

open Numeral

/-! ### The defects -/

/-- The parts that an analysis looks for. -/
inductive Part.Sought : Part → Prop where
  | fileHeader : Sought .fileHeader
  | programHeaderTable : Sought .programHeaderTable
  | sectionHeaderTable : Sought .sectionHeaderTable
  | sectionAt (index : Nat) : Sought (.sectionAt index)
  | nameTable : Sought .nameTable

namespace FormatError

/-- The defects that an analysis can report. -/
inductive Reported : FormatError → Prop where
  | badMagic (found : Vector UInt8 4) : Reported (.badMagic found)
  | truncated {part : Part} (hpart : part.Sought) (offset expected actual : UInt64) :
      Reported (.truncated part offset expected actual)
  | badReference (index count : Nat) : Reported (.badReference .nameTable index count)
  | unsupportedClass (code : UInt8) : Reported (.unsupportedClass code)
  | unsupportedEncoding (code : UInt8) : Reported (.unsupportedEncoding code)
  | badEntrySize (actual : UInt16) : Reported (.badEntrySize 64 actual)

end FormatError

/-- The faults that an analysis of a reader can stop at: what the reader fails with, and the
defects that can be reported. -/
inductive Fault.Explained (reader : Reader) : Fault → Prop where
  | io {error : IoError} (hraised : reader.Raises error) : Explained reader (.io error)
  | format {error : FormatError} (hreported : error.Reported) : Explained reader (.format error)

section Stages

variable {source : Source} {fault : Fault}

lemma Source.Denies.explained {part : Part} {extent : Extent} (hpart : part.Sought)
    (h : source.Denies part extent fault) : fault.Explained source.reader := by
  cases h with
  | io hraised => exact .io hraised
  | outside => exact .format (.truncated hpart _ _ _)
  | short => exact .format (.truncated hpart _ _ _)

lemma FileHeader.explained_of_checkTables {header : FileHeader} {length : UInt64}
    {reader : Reader} (h : header.checkTables length = .error fault) :
    fault.Explained reader := by
  by_cases hprogram : header.phnum = 0 ∨
      header.phoff.toNat + header.phnum.toNat * header.phentsize.toNat ≤ length.toNat
  · by_cases hsections : header.shoff = 0 ∨
        header.shoff.toNat + header.shnum.toNat * header.shentsize.toNat ≤ length.toNat
    · rw [checkTables_eq_ok_iff.mpr ⟨hprogram, hsections⟩] at h
      cases h
    · obtain ⟨hoffset, hlong⟩ := not_or.mp hsections
      rw [checkTables_of_sections hprogram hoffset (Nat.not_le.mp hlong)] at h
      cases h
      exact .format (.truncated .sectionHeaderTable _ _ _)
  · obtain ⟨hnum, hlong⟩ := not_or.mp hprogram
    rw [checkTables_of_program hnum (Nat.not_le.mp hlong)] at h
    cases h
    exact .format (.truncated .programHeaderTable _ _ _)

lemma FileHeader.Stops.explained (h : FileHeader.Stops source fault) :
    fault.Explained source.reader := by
  cases h with
  | read hread => exact hread.explained .fileHeader
  | badMagic found => exact .format (.badMagic found)
  | unsupportedClass code => exact .format (.unsupportedClass code)
  | unsupportedEncoding code => exact .format (.unsupportedEncoding code)
  | tables htables => exact explained_of_checkTables htables

lemma SectionTable.Stops.explained {header : FileHeader}
    (h : SectionTable.Stops source header fault) : fault.Explained source.reader := by
  cases h with
  | badEntrySize => exact .format (.badEntrySize _)
  | unsupportedEncoding => exact .format (.unsupportedEncoding _)
  | read _ _ hread => exact hread.explained .sectionHeaderTable
  | misplaced => exact .format (.truncated (.sectionAt _) _ _ _)

lemma NameTable.Stops.explained {header : FileHeader} {sections : List SectionHeader}
    (h : NameTable.Stops source header sections fault) : fault.Explained source.reader := by
  cases h with
  | badReference => exact .format (.badReference _ _)
  | read _ hread => exact hread.explained .nameTable

lemma Analysis.Stops.explained (h : Analysis.Stops source fault) :
    fault.Explained source.reader := by
  cases h with
  | header hheader => exact hheader.explained
  | sections hsections => exact hsections.explained
  | names hnames => exact hnames.explained

/-- Whatever the reader does, no other faults come up. -/
theorem Analysis.explained_of_ofReader {reader : Reader} {path : String}
    (h : (ofReader reader path).1 = .error fault) : fault.Explained reader := by
  rcases ofReader_cases reader path with herror | hinspect
  · cases herror.symm.trans h
    exact .io (.inl rfl)
  · rw [hinspect] at h
    have hstops := ((ensures_inspect _ path) _ (.refl _)).fault fault h
    cases hstops.explained with
    | io hraised => exact .io hraised
    | format hreported => exact .format hreported

lemma Analysis.reported_of_ofReader {reader : Reader} {path : String} {error : FormatError}
    (h : (ofReader reader path).1 = .error (.format error)) : error.Reported := by
  cases explained_of_ofReader h with
  | format hreported => exact hreported

end Stages

/-! ### Openings -/

/-- A character at which the words at the front of a message end. -/
def endsOpening (char : Char) : Bool :=
  char.isDigit || char = ':'

namespace FormatError

/-- The words that a message begins with, up to its first number or colon. -/
def opening : FormatError → String
  | badMagic _ => "not an ELF file"
  | truncated (.sectionAt _) .. => "section "
  | truncated part .. => part.describe ++ " truncated at offset "
  | badReference part .. => part.describe ++ " index "
  | unsupportedClass _ => "unsupported ELF class "
  | unsupportedEncoding _ => "unsupported data encoding "
  | badEntrySize .. => "section header entry size is "

lemma not_endsOpening_of_mem_opening {error : FormatError} (h : error.Reported) :
    ∀ char ∈ error.opening.toList, endsOpening char = false := by
  cases h with
  | truncated hpart => cases hpart <;> simp [opening, Part.describe, endsOpening]
  | _ => simp [opening, Part.describe, endsOpening]

/-- The text begins with the words, and they end there. -/
def BeginsWith (words text : String) : Prop :=
  ∃ first rest, text.toList = words.toList ++ first :: rest ∧ endsOpening first = true

lemma beginsWith_value {value : String} (h : Report.IsPrintedValue value) (words : String) :
    BeginsWith words (words ++ value) := by
  obtain ⟨first, rest, hdigits, hdigit⟩ := h.digit
  exact ⟨first, rest, by rw [String.toList_append, hdigits], by rw [endsOpening, hdigit]; rfl⟩

lemma BeginsWith.append {words text : String} (h : BeginsWith words text) (more : String) :
    BeginsWith words (text ++ more) := by
  obtain ⟨first, rest, htext, hfirst⟩ := h
  refine ⟨first, rest ++ more.toList, ?_, hfirst⟩
  rw [String.toList_append, htext, List.append_assoc, List.cons_append]

/-- Behind the words of the opening stands a number or a colon. -/
lemma beginsWith_opening {error : FormatError} (h : error.Reported) :
    BeginsWith error.opening error.message := by
  unfold message
  cases h with
  | badMagic found =>
    have hcolon : "not an ELF file: bad magic ".toList =
        "not an ELF file".toList ++ ':' :: " bad magic ".toList := by
      decide
    exact BeginsWith.append ⟨':', _, hcolon, by decide⟩ _
  | truncated hpart offset =>
    cases hpart with
    | sectionAt index =>
      have hnumber := beginsWith_value (Report.isPrintedValue_decimal index) "section "
      exact (((((hnumber.append _).append _).append _).append _).append _).append _
    | _ =>
      have hoffset := beginsWith_value (Report.isPrintedValue_markedHex offset.toNat)
      exact ((((hoffset _).append _).append _).append _).append _
  | badReference index =>
    have hindex := beginsWith_value (Report.isPrintedValue_decimal index)
    exact (((hindex _).append _).append _).append _
  | unsupportedClass code => exact (beginsWith_value (Report.isPrintedValue_decimal _) _).append _
  | unsupportedEncoding code => exact beginsWith_value (Report.isPrintedValue_decimal _) _
  | badEntrySize actual =>
    exact ((beginsWith_value (Report.isPrintedValue_decimal _) _).append _).append _

/-- Messages that are the same begin with the same words. -/
lemma opening_eq_of_message_eq {error error' : FormatError} (h : error.Reported)
    (h' : error'.Reported) (heq : error.message = error'.message) :
    error.opening = error'.opening := by
  obtain ⟨first, rest, hmessage, hfirst⟩ := beginsWith_opening h
  obtain ⟨first', rest', hmessage', hfirst'⟩ := beginsWith_opening h'
  have hfront (words : List Char) (char : Char) (rest : List Char)
      (hwords : ∀ char ∈ words, endsOpening char = false) (hchar : endsOpening char = true) :
      (words ++ char :: rest).takeWhile (fun char => !endsOpening char) = words := by
    rw [List.takeWhile_append_of_pos (fun char hmem => by rw [hwords char hmem]; rfl),
      List.takeWhile_cons_of_neg (by simp [hchar]), List.append_nil]
  rw [← String.toList_inj,
    ← hfront _ first rest (not_endsOpening_of_mem_opening h) hfirst, ← hmessage, heq, hmessage',
    hfront _ first' rest' (not_endsOpening_of_mem_opening h') hfirst']

/-- The kind of a defect by the opening of its message. -/
def kinds : List (String × Nat) := [
  ("not an ELF file", 0),
  ("file header truncated at offset ", 1),
  ("program header table truncated at offset ", 1),
  ("section header table truncated at offset ", 1),
  ("section ", 1),
  ("section name string table truncated at offset ", 1),
  ("section name string table index ", 2),
  ("unsupported ELF class ", 3),
  ("unsupported data encoding ", 4),
  ("section header entry size is ", 5)]

lemma lookup_opening {error : FormatError} (h : error.Reported) :
    kinds.lookup error.opening = some error.ctorIdx := by
  cases h with
  | truncated hpart => cases hpart <;> rfl
  | _ => rfl

/-- No two kinds of defects have an opening in common. -/
lemma ctorIdx_eq_of_opening_eq {error error' : FormatError} (h : error.Reported)
    (h' : error'.Reported) (heq : error.opening = error'.opening) :
    error.ctorIdx = error'.ctorIdx := by
  have hlookup := lookup_opening h
  rw [heq, lookup_opening h'] at hlookup
  exact (Option.some.inj hlookup).symm

/-! ### Numbers -/

/-- The part that is truncated can be told from the words of the opening, and the number of a
section from what stands in front of the words behind it. -/
lemma sought_inj {part part' : Part} {offset offset' expected expected' actual actual' : UInt64}
    {rest rest' : String} (hpart : part.Sought) (hpart' : part'.Sought)
    (hopening : (truncated part offset expected actual).opening =
      (truncated part' offset' expected' actual').opening)
    (h : part.describe ++ (" truncated at offset " ++ rest) =
      part'.describe ++ (" truncated at offset " ++ rest')) :
    part = part' ∧ rest = rest' := by
  have hsame : part = part' := by
    cases hpart with
    | sectionAt index =>
      cases hpart' with
      | sectionAt index' =>
        simp only [Part.describe, String.append_assoc, String.append_right_inj] at h
        obtain ⟨hindex, -⟩ := @append_append_inj _ _ _ _ _ ' ' (by decide)
          (Report.space_not_mem_decimal index) (Report.space_not_mem_decimal index') h
        rw [decimal_injective hindex]
      | _ => simp [opening, Part.describe] at hopening
    | _ => cases hpart' <;> simp [opening, Part.describe] at hopening ⊢
  rw [hsame, String.append_right_inj, String.append_right_inj] at h
  exact ⟨hsame, h⟩

lemma colon_not_mem_markedHex (n : Nat) : ':' ∉ (markedHex n).toList :=
  not_mem_markedHex (fun _ => Nat.digitChar_ne ':' rfl) (by decide) n

/-- Equal messages are those of one defect. -/
lemma eq_of_message_eq {error error' : FormatError} (h : error.Reported) (h' : error'.Reported)
    (heq : error.message = error'.message) : error = error' := by
  have hopening := opening_eq_of_message_eq h h' heq
  have hkind := ctorIdx_eq_of_opening_eq h h' hopening
  unfold message at heq
  cases h with
  | badMagic found =>
    cases h' with
    | badMagic found' =>
      have hbytes := hexBytes_injective ((String.append_right_inj _).mp heq)
      rw [Vector.toList_inj.mp hbytes]
    | _ => cases hkind
  | truncated hpart offset expected actual =>
    cases h' with
    | truncated hpart' offset' expected' actual' =>
      simp only [String.append_assoc] at heq
      obtain ⟨rfl, hnumbers⟩ := sought_inj hpart hpart' hopening heq
      obtain ⟨hoffset, hcounts⟩ := @append_append_inj _ _ _ _ _ ':' (by decide)
        (colon_not_mem_markedHex _) (colon_not_mem_markedHex _) hnumbers
      obtain ⟨hexpected, hactual⟩ := @append_append_inj _ _ _ _ _ ' ' (by decide)
        (Report.space_not_mem_decimal _) (Report.space_not_mem_decimal _) hcounts
      rw [UInt64.toNat_inj.mp (markedHex_injective hoffset),
        UInt64.toNat_inj.mp (decimal_injective hexpected),
        UInt64.toNat_inj.mp (decimal_injective hactual)]
    | _ => cases hkind
  | badReference index count =>
    cases h' with
    | badReference index' count' =>
      simp only [String.append_assoc, String.append_right_inj] at heq
      obtain ⟨hindex, hcount⟩ := @append_append_inj _ _ _ _ _ ' ' (by decide)
        (Report.space_not_mem_decimal _) (Report.space_not_mem_decimal _) heq
      rw [decimal_injective hindex, decimal_injective ((String.append_left_inj _).mp hcount)]
    | _ => cases hkind
  | unsupportedClass code =>
    cases h' with
    | unsupportedClass code' =>
      simp only [String.append_left_inj, String.append_right_inj] at heq
      rw [UInt8.toNat_inj.mp (decimal_injective heq)]
    | _ => cases hkind
  | unsupportedEncoding code =>
    cases h' with
    | unsupportedEncoding code' =>
      rw [UInt8.toNat_inj.mp (decimal_injective ((String.append_right_inj _).mp heq))]
    | _ => cases hkind
  | badEntrySize actual =>
    cases h' with
    | badEntrySize actual' =>
      simp only [String.append_left_inj, String.append_right_inj] at heq
      rw [UInt16.toNat_inj.mp (decimal_injective heq)]
    | _ => cases hkind

lemma Reported.oneLine_message {error : FormatError} (h : error.Reported) :
    OneLine error.message := by
  apply FormatError.oneLine_message
  cases h with
  | truncated hpart =>
    rintro _ ⟨⟩
    cases hpart with
    | sectionAt index => exact Part.oneLine_describe_sectionAt index
    | _ => decide
  | badReference =>
    rintro _ ⟨⟩
    decide
  | _ => exact nofun

/-- An analysis stops at defects of these kinds alone, the message of each of them is that of no
other one, and it is one line. -/
theorem message_identifies :
    (∀ reader path error, (Analysis.ofReader reader path).1 = .error (.format error) →
      error.Reported) ∧
    (∀ error error' : FormatError, error.Reported → error'.Reported →
      (error.message = error'.message ↔ error = error')) ∧
    ∀ error : FormatError, error.Reported → OneLine error.message := by
  refine ⟨fun _ _ _ => Analysis.reported_of_ofReader, fun error error' h h' => ?_,
    fun _ => Reported.oneLine_message⟩
  exact ⟨eq_of_message_eq h h', congrArg message⟩

/-- What is said of a file of one byte, and of two references that have the same digits in the same
order. -/
theorem message_identifies_references :
    let short := truncated .fileHeader 0 64 1
    let first := badReference .nameTable 1 23
    let second := badReference .nameTable 12 3
    (Analysis.ofReader (Reader.honest [0x7f]) "a").1 = .error (.format short) ∧
      short.Reported ∧ first.Reported ∧ second.Reported ∧ first.message ≠ second.message ∧
      short.message ≠ first.message ∧ OneLine first.message := by
  intro short first second
  obtain ⟨hreported, hidentifies, honeLine⟩ := message_identifies
  have hanalysis : (Analysis.ofReader (Reader.honest [0x7f]) "a").1 = .error (.format short) := rfl
  have hshort := hreported _ _ _ hanalysis
  have hfirst : first.Reported := .badReference 1 23
  have hsecond : second.Reported := .badReference 12 3
  refine ⟨hanalysis, hshort, hfirst, hsecond, ?_, ?_, honeLine _ hfirst⟩
  · exact mt (hidentifies _ _ hfirst hsecond).mp (by decide)
  · exact mt (hidentifies _ _ hshort hfirst).mp (by decide)

end FormatError

/-- If what a reader says of its failures takes one line, so does every message. -/
lemma Fault.Explained.oneLine_message {reader : Reader} {fault : Fault} (h : fault.Explained reader)
    (hreader : ∀ error, reader.Raises error → OneLine error.message) : OneLine fault.message := by
  cases h with
  | io hraised => exact hreader _ hraised
  | format hreported => exact hreported.oneLine_message

end ElfInspect
