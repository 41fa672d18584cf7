import ElfInspect.Proofs.RecordedLength
import Mathlib.Data.List.TakeWhile

/-!
# The log of an analysis

What an analysis says in its log, line by line, for every source without faults. The lines are
written down from the bytes, the recorded length and the success of the stages; each stage that
is reached says what it has to say, and the one that fails says nothing more.
-/

namespace ElfInspect

namespace Layout

open Numeral

variable (content : Bytes)

/-- The line for a source of `length` bytes that is taken up. -/
def startLine (length : UInt64) : String :=
  "INFO Analyzing " ++ decimal length.toNat ++ " bytes"

def headerLine : String :=
  "DEBUG ELF header: type=" ++ decimal (header content).type.toNat ++
    " machine=" ++ decimal (header content).machine.toNat ++
    " shoff=" ++ markedHex (header content).shoff.toNat ++
    " shnum=" ++ decimal (header content).shnum.toNat ++
    " shstrndx=" ++ decimal (header content).shstrndx.toNat

/-- The first record that has to lie in a file of `length` bytes and does not. -/
def misfit? (length : Nat) : Option Nat :=
  (List.range (header content).shnum.toNat).find? fun i =>
    (record content i).type ≠ 8 ∧
      length < (record content i).offset.toNat + (record content i).size.toNat

/-- The warnings for the records below `stop` without bytes in the file that start past a file of
`length` bytes. -/
def nobitsLines (length stop : Nat) : List String :=
  (List.range stop).filterMap fun i =>
    if (record content i).type = 8 ∧ length < (record content i).offset.toNat then
      some ("WARN NOBITS section " ++ decimal i ++ " offset " ++
        markedHex (record content i).offset.toNat ++ " lies past EOF")
    else none

def countLine : String :=
  "INFO Read " ++ decimal (header content).shnum.toNat ++ " section headers"

def nameTableLine : String :=
  "DEBUG Loaded section name string table from section " ++
    decimal (header content).shstrndx.toNat ++ " (" ++
    decimal (nameRecord content).size.toNat ++ " bytes)"

/-- The warnings for the records whose names start past the name table. -/
def nameLines : List String :=
  (List.range (header content).shnum.toNat).filterMap fun i =>
    if (nameRecord content).size.toNat ≤ (record content i).name.toNat then
      some ("WARN Section " ++ decimal i ++ ": name offset " ++
        decimal (record content i).name.toNat ++ " outside string table (" ++
        decimal (nameRecord content).size.toNat ++ " bytes)")
    else none

/-- The table can be read: its entries are of the right size, and all of it lies in the recorded
length and in the bytes that there are. -/
def Readable (length : Nat) : Prop :=
  (header content).shentsize = 64 ∧
    (header content).shoff.toNat + 64 * (header content).shnum.toNat ≤ length ∧
    (header content).shoff.toNat + 64 * (header content).shnum.toNat ≤ content.length

instance (length : Nat) : Decidable (Readable content length) :=
  inferInstanceAs (Decidable (_ ∧ _ ∧ _))

/-- The lines of the name table, if it is loaded. -/
def linesOfNames : Except Fault NameTable → List String
  | .error _ => []
  | .ok _ => nameTableLine content :: nameLines content

/-- The lines of the records up to the first misfit, and what follows if there is none. -/
def linesOfRecords (length : Nat) (names : Except Fault NameTable) : List String :=
  match misfit? content length with
  | some stop => nobitsLines content length stop
  | none => nobitsLines content length (header content).shnum.toNat ++
      countLine content :: linesOfNames content names

def linesOfTable (length : Nat) (names : Except Fault NameTable) : List String :=
  if (header content).shnum = 0 then ["INFO No section headers declared"]
  else if Readable content length then linesOfRecords content length names
  else []

/-- The lines of a whole analysis, given what reading the header and loading the names came to. -/
def linesOfAnalysis (length : UInt64) (found : Except Fault FileHeader)
    (names : Except Fault NameTable) : List String :=
  startLine length :: match found with
    | .error _ => []
    | .ok _ => headerLine content :: linesOfTable content length.toNat names

end Layout

/-! ### Ranges of records -/

lemma takeWhile_range (p : Nat → Bool) (n : Nat) :
    (List.range n).takeWhile p =
      List.range (((List.range n).find? fun i => !p i).getD n) := by
  cases hfind : (List.range n).find? fun i => !p i with
  | none =>
    rw [List.find?_range_eq_none] at hfind
    rw [Option.getD_none, List.takeWhile_eq_self_iff]
    intro i hi
    simpa using hfind i (List.mem_range.mp hi)
  | some stop =>
    obtain ⟨hstop, hmem, hbefore⟩ := List.find?_range_eq_some.mp hfind
    have hlt := List.mem_range.mp hmem
    have hsplit : List.range n =
        List.range stop ++ stop :: (List.range (n - stop - 1)).map (stop + 1 + ·) := by
      have hn : n = stop + (n - stop - 1 + 1) := by omega
      rw [hn, List.range_add, List.range_succ_eq_map]
      simp [Function.comp_def, Nat.add_assoc, Nat.add_comm 1]
    rw [Option.getD_some, hsplit, List.takeWhile_append_of_pos, List.takeWhile_cons_of_neg,
      List.append_nil]
    · simpa using hstop
    · intro i hi
      simpa using hbefore i (List.mem_range.mp hi)

/-! ### What the stages log -/

namespace Account

variable {α β : Type}

/-- The account logs what goes with its value, and nothing if it comes to a fault. -/
def Reports (account : Account α) (events : α → List Event) : Prop :=
  (∀ fault, account.result = .error fault → account.log = []) ∧
    ∀ value, account.result = .ok value → account.log = events value

lemma Reports.after {first : Account α} {next : α → Account β} {events : β → List Event}
    (hfirst : first.log = []) (h : ∀ value, (next value).Reports events) :
    (first >>= next).Reports events := by
  cases hresult : first.result with
  | error fault =>
    rw [bind_of_error hresult, hfirst]
    exact ⟨fun _ _ => rfl, nofun⟩
  | ok value =>
    rw [bind_of_ok hresult, hfirst, List.nil_append]
    exact h value

lemma reports_note (events : α → List Event) (value : α) :
    (note (events value) >>= fun _ => pure value).Reports events := by
  refine ⟨nofun, ?_⟩
  rintro _ ⟨⟩
  exact List.append_nil _

lemma log_note_bind (events : List Event) (next : Unit → Account β) :
    (note events >>= next).log = events ++ (next ()).log := rfl

lemma log_pure (value : α) : (pure value : Account α).log = [] := rfl

end Account

namespace File

open Account

variable {file : File}

/-- A header that was read is the one that stands in front, whatever length was recorded. -/
lemma eq_header_of_result_header {found : FileHeader} (h : file.header.result = .ok found) :
    64 ≤ file.content.length ∧ found = Layout.header file.content ∧
      (Layout.header file.content).byteOrder? = some (Layout.order file.content) := by
  rw [result_header_eq] at h
  obtain ⟨bytes, hread, hrest⟩ := exists_of_bind_eq_ok h
  have hlength : 64 ≤ file.content.length := by
    have hfits := (fits_of_result_read hread).2.resolve_left (by decide)
    exact hfits
  obtain ⟨-, hbytes, -⟩ := of_result_read hread
  have hslice : bytes = slice file.content 0 64 := hbytes
  rw [hslice, parse_slice hlength] at hrest
  obtain ⟨header, hparse, hchecked⟩ := exists_of_bind_eq_ok hrest
  obtain ⟨hident, rfl⟩ := check_bind_eq_ok_iff.mp hparse
  exact ⟨hlength, (check_bind_eq_ok_iff.mp hchecked).2.symm, byteOrder?_header hident⟩

lemma header_reports (file : File) : file.header.Reports fun header => [header.event] := by
  apply Reports.after (log_read ..)
  intro bytes
  apply Reports.after rfl
  intro header
  apply Reports.after rfl
  intro _
  exact reports_note (fun header => [header.event]) header

lemma names_reports (file : File) (header : FileHeader) (sections : List SectionHeader) :
    (file.names header sections).Reports fun names =>
      [.nameTableLoaded header.shstrndx.toNat names.size] := by
  unfold names
  cases sections[header.shstrndx.toNat]? with
  | none => exact ⟨fun _ _ => rfl, nofun⟩
  | some sh =>
    apply Reports.after (log_read ..)
    intro bytes
    exact reports_note
      (fun names : NameTable => [.nameTableLoaded header.shstrndx.toNat names.size]) { bytes }

/-- A name table that was loaded is as long as the record of it says. -/
lemma size_of_result_names {names : NameTable}
    (h : (file.names (Layout.header file.content) (Layout.records file.content)).result =
      .ok names) :
    names.size = (Layout.nameRecord file.content).size.toNat := by
  unfold File.names at h
  by_cases hindex : (Layout.header file.content).shstrndx.toNat <
      (Layout.header file.content).shnum.toNat
  · rw [getElem?_records_of_lt hindex] at h
    change (file.read .nameTable (Layout.nameRecord file.content).extent >>= _).result = _ at h
    rw [result_bind] at h
    obtain ⟨bytes, hread, hnames⟩ := exists_of_bind_eq_ok h
    cases hnames
    exact (of_result_read hread).2.2
  · have hnone : (Layout.records file.content)[(Layout.header file.content).shstrndx.toNat]? =
        none := by
      rw [List.getElem?_eq_none_iff, length_records]
      omega
    rw [hnone] at h
    cases h

end File

/-! ### The table -/

namespace Layout

variable {content : Bytes} {length : UInt64}

lemma find?_not_admits :
    ((List.range (header content).shnum.toNat).find? fun i =>
      !SectionTable.admits length (record content i)) = misfit? content length.toNat := by
  unfold misfit?
  congr 1
  funext i
  rw [Bool.eq_iff_iff, Bool.not_eq_true', SectionTable.admits_eq_false_iff, decide_eq_true_iff]

lemma find?_entries :
    ((records content).zipIdx.find? fun entry => !SectionTable.admits length entry.1) =
      (misfit? content length.toNat).map fun i => (record content i, i) := by
  rw [zipIdx_records, List.find?_map, ← find?_not_admits]
  rfl

lemma check_records_eq_ok_iff :
    SectionTable.check length (records content) = .ok () ↔
      misfit? content length.toNat = none := by
  unfold SectionTable.check
  rw [find?_entries]
  cases hmisfit : misfit? content length.toNat with
  | none => exact iff_of_true rfl rfl
  | some i =>
    obtain ⟨-, hlong⟩ := of_decide_eq_true (List.find?_range_eq_some.mp hmisfit).1
    apply iff_of_false
    · intro hcheck
      have hpassed : (record content i).checkExtent i length = .ok () := hcheck
      rw [SectionHeader.checkExtent_eq] at hpassed
      exact Nat.not_le.mpr hlong (Extent.check_eq_ok_iff.mp hpassed)
    · exact nofun

/-- The table warns of the records below the first misfit. -/
lemma lines_warnings :
    (SectionTable.warnings length (records content)).map Event.line =
      nobitsLines content length.toNat
        ((misfit? content length.toNat).getD (header content).shnum.toNat) := by
  have hadmits : ((fun entry => SectionTable.admits length entry.1) ∘
      fun i => (record content i, i)) =
        fun i => SectionTable.admits length (record content i) := rfl
  rw [SectionTable.warnings, zipIdx_records, List.takeWhile_map, hadmits, takeWhile_range,
    find?_not_admits, List.filterMap_map, List.map_filterMap, nobitsLines]
  congr 1
  funext i
  have hwarns : ((record content i).isNobits && decide (length < (record content i).offset)) =
      decide ((record content i).type = 8 ∧
        length.toNat < (record content i).offset.toNat) := by
    rw [Bool.eq_iff_iff, Bool.and_eq_true, decide_eq_true_iff, decide_eq_true_iff,
      UInt64.lt_iff_toNat_lt]
    apply and_congr_left'
    exact decide_eq_true_iff
  simp only [Function.comp_apply, hwarns, decide_eq_true_eq]
  split <;> rfl

/-- The names that are warned of are those from the end of the name table on. -/
lemma lines_nameWarnings {names : NameTable} (h : names.size = (nameRecord content).size.toNat) :
    (SectionSummary.warnings names (records content)).map Event.line = nameLines content := by
  rw [SectionSummary.warnings, zipIdx_records, List.filterMap_map, List.map_filterMap, nameLines]
  congr 1
  funext i
  simp only [Function.comp_apply, SectionSummary.warning?_eq, NameTable.isOutside, h,
    decide_eq_true_eq]
  split <;> rfl

end Layout

/-! ### The whole log -/

namespace File

open Account Layout

variable {file : File}

/-- What is left of reading the table once its bytes have been found. -/
lemma records_of_readable (h : Readable file.content file.length.toNat) :
    file.records (Layout.header file.content) (Layout.order file.content) = (do
      note (SectionTable.warnings file.length (Layout.records file.content))
      ofExcept (SectionTable.check file.length (Layout.records file.content))
      note [.sectionsRead (Layout.records file.content).length]
      return Layout.records file.content) := by
  obtain ⟨-, hlength, hcontent⟩ := h
  have hread : file.read .sectionHeaderTable (SectionTable.extent (Layout.header file.content)) =
      pure (slice file.content (Layout.header file.content).shoff.toNat
        (64 * (Layout.header file.content).shnum.toNat)) := by
    rw [← extent_size] at hlength hcontent ⊢
    exact read_of_le hlength hcontent
  rw [File.records, hread, bind_of_ok rfl, many_decode_slice hcontent]
  rfl

/-- A table that cannot be read is given up without a word. -/
lemma records_of_not_readable (hnum : (Layout.header file.content).shnum ≠ 0)
    (hsize : (Layout.header file.content).shentsize = 64)
    (h : ¬Readable file.content file.length.toNat) (order : ByteOrder) :
    (file.records (Layout.header file.content) order).log = [] ∧
      ∃ fault, (file.records (Layout.header file.content) order).result = .error fault := by
  unfold File.records
  cases hread : (file.read .sectionHeaderTable
      (SectionTable.extent (Layout.header file.content))).result with
  | error fault =>
    rw [bind_of_error hread]
    exact ⟨log_read .., fault, rfl⟩
  | ok bytes =>
    obtain ⟨hlength, hcontent⟩ := fits_of_result_read hread
    rw [extent_size, extent_offset] at hlength hcontent
    have hpos : (Layout.header file.content).shnum.toNat ≠ 0 := by
      intro hzero
      exact hnum (UInt16.toNat_inj.mp hzero)
    exact (h ⟨hsize, hlength, hcontent.resolve_left (by omega)⟩).elim

variable {α : Type}

lemma lines_names (finish : NameTable → α) :
    (file.names (Layout.header file.content) (Layout.records file.content) >>= fun names =>
      note (SectionSummary.warnings names (Layout.records file.content)) >>= fun _ =>
        pure (finish names)).log.map Event.line =
      linesOfNames file.content
        (file.names (Layout.header file.content) (Layout.records file.content)).result := by
  obtain ⟨hfault, hloaded⟩ :=
    file.names_reports (Layout.header file.content) (Layout.records file.content)
  cases hnames :
      (file.names (Layout.header file.content) (Layout.records file.content)).result with
  | error fault =>
    rw [bind_of_error hnames, hfault fault hnames]
    rfl
  | ok names =>
    have hsize := size_of_result_names hnames
    have hwarnings := lines_nameWarnings hsize
    simp only [bind_of_ok hnames, log_note_bind, log_pure, hloaded names hnames, hsize,
      List.append_nil, List.map_append, hwarnings]
    rfl

/-- The log of the table and of all that comes after it, once the bytes of the table have been
found. -/
lemma lines_records (h : Readable file.content file.length.toNat)
    (finish : List SectionHeader → NameTable → α) :
    (file.records (Layout.header file.content) (Layout.order file.content) >>= fun sections =>
      file.names (Layout.header file.content) sections >>= fun names =>
      note (SectionSummary.warnings names sections) >>= fun _ =>
        pure (finish sections names)).log.map Event.line =
      linesOfRecords file.content file.length.toNat
        (file.names (Layout.header file.content) (Layout.records file.content)).result := by
  have hwarnings := @lines_warnings file.content file.length
  rw [records_of_readable h, linesOfRecords]
  cases hmisfit : misfit? file.content file.length.toNat with
  | none =>
    rw [hmisfit, Option.getD_none] at hwarnings
    rw [check_records_eq_ok_iff.mpr hmisfit, bind_of_ok rfl]
    rw [List.map_append, lines_names]
    change List.map _ (_ ++ [_]) ++ _ = _
    rw [List.map_append, hwarnings, length_records, List.append_assoc]
    rfl
  | some stop =>
    rw [hmisfit, Option.getD_some] at hwarnings
    cases hcheck : SectionTable.check file.length (Layout.records file.content) with
    | ok _ =>
      rw [check_records_eq_ok_iff.mp hcheck] at hmisfit
      cases hmisfit
    | error fault =>
      rw [bind_of_error rfl]
      change List.map _ (_ ++ []) = _
      rw [List.append_nil, hwarnings]

lemma lines_sections (horder : (Layout.header file.content).byteOrder? =
      some (Layout.order file.content)) (finish : List SectionHeader → NameTable → α) :
    (file.sections (Layout.header file.content) >>= fun sections =>
      file.names (Layout.header file.content) sections >>= fun names =>
      note (SectionSummary.warnings names sections) >>= fun _ =>
        pure (finish sections names)).log.map Event.line =
      linesOfTable file.content file.length.toNat
        (file.names (Layout.header file.content) (Layout.records file.content)).result := by
  unfold linesOfTable File.sections
  by_cases hnum : (Layout.header file.content).shnum = 0
  · rw [if_pos hnum, if_pos hnum]
    rfl
  rw [if_neg hnum, if_neg hnum, horder]
  by_cases hsize : (Layout.header file.content).shentsize = SectionTable.entrySize
  · rw [if_neg (not_not_intro hsize)]
    by_cases hreadable : Readable file.content file.length.toNat
    · rw [if_pos hreadable]
      exact lines_records hreadable finish
    · obtain ⟨hlog, fault, hfault⟩ := records_of_not_readable hnum hsize hreadable
        (Layout.order file.content)
      change List.map _ (file.records _ _ >>= _).log = _
      rw [if_neg hreadable, bind_of_error hfault, hlog]
      rfl
  · have hreadable : ¬Readable file.content file.length.toNat := fun h => hsize h.1
    rw [if_pos hsize, if_neg hreadable]
    rfl

/-- The log of an analysis, line by line. -/
theorem lines_analysis (file : File) (path : String) :
    (file.analysis path).log.map Event.line =
      linesOfAnalysis file.content file.length file.header.result
        (file.names (Layout.header file.content) (Layout.records file.content)).result := by
  obtain ⟨hfault, hread⟩ := file.header_reports
  unfold File.analysis linesOfAnalysis
  rw [log_note_bind, List.map_append]
  cases hheader : file.header.result with
  | error fault =>
    rw [bind_of_error hheader, hfault fault hheader]
    rfl
  | ok header =>
    obtain ⟨-, rfl, horder⟩ := eq_header_of_result_header hheader
    rw [bind_of_ok hheader, hread _ hheader, List.map_append, lines_sections horder]
    rfl

end File

/-- What an analysis logs is determined by the bytes, the recorded length, and whether the header
was read and the names were loaded. -/
theorem Analysis.lines_ofReader {reader : Reader} (hread : reader.readFault? = none)
    (hseek : reader.seekFault? = none) (path : String) :
    ∃ source, Source.ofReader reader = .ok source ∧
      (ofReader reader path).2.map Event.line =
        Layout.linesOfAnalysis reader.content reader.reportedLength
          (FileHeader.read source).result
          (NameTable.load (Layout.header reader.content) (Layout.records reader.content)
            source).result := by
  have hserves : Source.Serves { reader := reader.takenUp, length := reader.reportedLength }
      reader.file := ⟨hread, hseek, rfl, rfl⟩
  refine ⟨_, Source.ofReader_of_eq_none hseek, ?_⟩
  obtain ⟨afterHeader, hheader, -⟩ := Inspection.yields_readHeader _ hserves
  obtain ⟨afterNames, hnames, -⟩ := Inspection.yields_loadNames (Layout.header reader.content)
    (Layout.records reader.content) _ hserves
  rw [ofReader_eq_account hread hseek, File.lines_analysis, hheader, hnames]
  -- A reader that gives nothing has no header, and nothing is said of what may stand behind it.
  cases hfound : reader.file.header.result with
  | error fault => rfl
  | ok header =>
    have hlength := (File.eq_header_of_result_header hfound).1
    have hcontent : reader.file.content = reader.content := by
      rcases reader.content_file with hempty | hall
      · rw [hempty] at hlength
        exact (Nat.not_succ_le_zero _ hlength).elim
      · exact hall
    rw [hcontent]
    rfl

/-- A section without bytes far past the end is warned of and one at the end is not, and of the
names the one past the last byte of the table but not the one at it. -/
theorem Analysis.lines_ofReader_pastEnd :
    let header : FileHeader := { selfDescribing 3 with shoff := 64, shstrndx := 1 }
    let record : SectionHeader :=
      { name := 0, type := 8, flags := 0, addr := 0, offset := 0, size := 0, link := 0, info := 0,
        addralign := 0, entsize := 0 }
    let records : List SectionHeader := [
      { record with name := 3, offset := 257 },
      { record with name := 4, type := 3, offset := 252, size := 4 },
      { record with name := 0, offset := 256, size := 9 }]
    let reader : Reader :=
      { content := header.encode .little ++ records.flatMap (SectionHeader.encode .little),
        reportedLength := 256, chunk? := some 7 }
    reader.readFault? = none ∧ reader.seekFault? = none ∧
      (ofReader reader "a").2.map Event.line = [
        "INFO Analyzing 256 bytes",
        "DEBUG ELF header: type=0 machine=0 shoff=0x40 shnum=3 shstrndx=1",
        "WARN NOBITS section 0 offset 0x101 lies past EOF",
        "INFO Read 3 section headers",
        "DEBUG Loaded section name string table from section 1 (4 bytes)",
        "WARN Section 1: name offset 4 outside string table (4 bytes)"] := by
  intro header record records reader
  obtain ⟨source, hsource, hlines⟩ := @lines_ofReader reader rfl rfl "a"
  refine ⟨rfl, rfl, ?_⟩
  rw [hlines]
  cases hsource
  decide +kernel

end ElfInspect
