import ElfInspect.Proofs.Drafts

/-!
# Which files are accepted, and as what

The outcome of an analysis for every reader that serves its bytes in full: acceptance is a
property of the bytes, an accepted file is described field by field, and any other file is
refused for the first of the checks that it fails.
-/

namespace ElfInspect

/-- A reader that gives exactly the bytes it has, in reads of any size, and never fails. -/
structure Reader.Faithful (reader : Reader) : Prop where
  length : reader.reportedLength.toNat = reader.content.length
  progress : reader.chunk? ≠ some 0
  readFault : reader.readFault? = none
  seekFault : reader.seekFault? = none

lemma Reader.faithful_honest {content : Bytes} (h : content.length < UInt64.size) :
    (honest content).Faithful where
  length := by
    have hlength : (honest content).reportedLength = content.length.toUInt64 := rfl
    rw [hlength]
    exact Nat.mod_eq_of_lt h
  progress := nofun
  readFault := rfl
  seekFault := rfl

lemma Reader.file_of_faithful {reader : Reader} (h : reader.Faithful) :
    reader.file = ⟨reader.content, reader.reportedLength⟩ := by
  have hstarved : ¬reader.Starved := h.progress
  rw [Reader.file, if_neg hstarved]

lemma Analysis.ofReader_eq_run {reader : Reader} (h : reader.Faithful) (path : String) :
    (ofReader reader path).1 =
      Check.run (Layout.checks reader.content) >>= fun _ =>
        .ok (Layout.analysis reader.content path) := by
  rw [ofReader_eq_account h.readFault h.seekFault, Reader.file_of_faithful h]
  exact File.result_analysis h.length path

namespace Layout

variable {content : Bytes}

/-- What a file has to satisfy, with all sums and products in the natural numbers. -/
structure Acceptable (content : Bytes) : Prop where
  length : 64 ≤ content.length
  magic : content.take 4 = [0x7f, 0x45, 0x4c, 0x46]
  objectClass : content[4]? = some 2
  encoding : content[5]? = some 1 ∨ content[5]? = some 2
  programTable : (header content).phnum = 0 ∨
    (header content).phoff.toNat +
      (header content).phnum.toNat * (header content).phentsize.toNat ≤ content.length
  someSection : 1 ≤ (header content).shnum.toNat
  entrySize : (header content).shentsize = 64
  sectionTable :
    (header content).shoff.toNat + 64 * (header content).shnum.toNat ≤ content.length
  contents : ∀ i < (header content).shnum.toNat, (record content i).type ≠ 8 →
    (record content i).offset.toNat + (record content i).size.toNat ≤ content.length
  nameIndex : (header content).shstrndx.toNat < (header content).shnum.toNat
  nameTable :
    (nameRecord content).offset.toNat + (nameRecord content).size.toNat ≤ content.length

/-- The summary of a record: its place in the table, its fields, and as its name the run of
bytes in the name table that the record points to. -/
def row (content : Bytes) (index : Nat) : SectionSummary where
  index
  name := Utf8.decode (nameRun content (record content index).name.toNat)
  kind := SectionHeader.typeLabel (record content index).type
  vma := (record content index).addr
  size := (record content index).size
  fileOffset := (record content index).offset
  flags := SectionHeader.flagLetters (record content index).flags
  link := (record content index).link
  info := (record content index).info
  align := (record content index).addralign
  entsize := (record content index).entsize

def rows (content : Bytes) : List SectionSummary :=
  (List.range (header content).shnum.toNat).map (row content)

/-! ### The first bytes -/

lemma take_four (h : 4 ≤ content.length) : content.take 4 = (Layout.magic content).toList := by
  match content, h with
  | _ :: _ :: _ :: _ :: _, _ => rfl

lemma getElem?_eq_some_iff_getD {i : Nat} (h : i < content.length) (byte : UInt8) :
    content[i]? = some byte ↔ content.getD i 0 = byte := by
  rw [List.getD_eq_getElem?_getD, List.getElem?_eq_getElem h, Option.getD_some,
    Option.some_inj]

/-! ### The checks as conditions -/

lemma holds_fits {part : Part} {offset size length : Nat} :
    (Check.fits part offset size length).holds = true ↔ offset + size ≤ length :=
  decide_eq_true_iff

lemma holds_exceptIf {check : Check} {exempt : Bool} :
    (check.exceptIf exempt).holds = true ↔ exempt = true ∨ check.holds = true :=
  Bool.or_eq_true_iff

lemma forall_headerChecks :
    (∀ check ∈ headerChecks content, check.holds = true) ↔
      64 ≤ content.length ∧ (Layout.magic content).toList = [0x7f, 0x45, 0x4c, 0x46] ∧
      content.getD 4 0 = 2 ∧ (content.getD 5 0 = 1 ∨ content.getD 5 0 = 2) ∧
      ((header content).phnum = 0 ∨ (header content).phoff.toNat +
        (header content).phnum.toNat * (header content).phentsize.toNat ≤ content.length) ∧
      ((header content).shoff = 0 ∨ (header content).shoff.toNat +
        (header content).shnum.toNat * (header content).shentsize.toNat ≤ content.length) := by
  simp only [headerChecks, identChecks, extentChecks, List.cons_append, List.nil_append,
    List.forall_mem_cons, holds_fits, holds_exceptIf, decide_eq_true_eq, Nat.zero_add,
    List.not_mem_nil, false_implies, implies_true, and_true]

lemma forall_tableChecks :
    (∀ check ∈ tableChecks content, check.holds = true) ↔
      (header content).shnum ≠ 0 ∧ (header content).shentsize = 64 ∧
      ((header content).shoff ≠ 0 ∨ 64 * (header content).shnum.toNat ≤ content.length) := by
  simp only [tableChecks, List.forall_mem_cons, holds_fits, holds_exceptIf, decide_eq_true_eq,
    Nat.zero_add]
  simp

lemma forall_recordChecks :
    (∀ check ∈ recordChecks content, check.holds = true) ↔
      ∀ i < (header content).shnum.toNat, (record content i).type ≠ 8 →
        (record content i).offset.toNat + (record content i).size.toNat ≤ content.length := by
  simp only [recordChecks, List.forall_mem_map, List.mem_range, recordCheck, holds_fits,
    holds_exceptIf, SectionHeader.isNobits, decide_eq_true_eq]
  constructor
  · intro h i hi htype
    exact (h i hi).resolve_left htype
  · intro h i hi
    by_cases htype : (record content i).type = 8
    · exact .inl htype
    · exact .inr (h i hi htype)

lemma forall_nameChecks :
    (∀ check ∈ nameChecks content, check.holds = true) ↔
      (header content).shstrndx.toNat < (header content).shnum.toNat ∧
        (nameRecord content).offset.toNat + (nameRecord content).size.toNat ≤ content.length := by
  simp only [nameChecks, List.forall_mem_cons, holds_fits, decide_eq_true_eq]
  simp

theorem run_checks_eq_ok_iff : Check.run (checks content) = .ok () ↔ Acceptable content := by
  rw [Check.run_eq_ok_iff, checks]
  simp only [List.forall_mem_append, forall_headerChecks, forall_tableChecks,
    forall_recordChecks, forall_nameChecks]
  constructor
  · rintro ⟨⟨⟨⟨hlength, hmagic, hclass, hencoding, hprogram, hextent⟩, hnum, hsize, htable⟩,
      hcontents⟩, hindex, hnames⟩
    have hencoding' : content[5]? = some 1 ∨ content[5]? = some 2 := by
      rw [getElem?_eq_some_iff_getD (by omega), getElem?_eq_some_iff_getD (by omega)]
      exact hencoding
    have hsectionTable : (header content).shoff.toNat + 64 * (header content).shnum.toNat ≤
        content.length := by
      rcases hextent with hshoff | hextent
      · have hstart : (header content).shoff.toNat = 0 := congrArg UInt64.toNat hshoff
        have hwhole := htable.resolve_left (not_not_intro hshoff)
        omega
      · have hentry : (header content).shentsize.toNat = 64 := congrArg UInt16.toNat hsize
        rw [hentry] at hextent
        omega
    exact {
      length := hlength
      magic := (take_four (by omega)).trans hmagic
      objectClass := (getElem?_eq_some_iff_getD (by omega) 2).mpr hclass
      encoding := hencoding'
      programTable := hprogram
      someSection := by omega
      entrySize := hsize
      sectionTable := hsectionTable
      contents := hcontents
      nameIndex := hindex
      nameTable := hnames }
  · intro h
    have hlength := h.length
    have hentry : (header content).shentsize.toNat = 64 := congrArg UInt16.toNat h.entrySize
    have hencoding : content.getD 5 0 = 1 ∨ content.getD 5 0 = 2 := by
      rw [← getElem?_eq_some_iff_getD (by omega), ← getElem?_eq_some_iff_getD (by omega)]
      exact h.encoding
    have hextent : (header content).shoff.toNat +
        (header content).shnum.toNat * (header content).shentsize.toNat ≤ content.length := by
      have htable := h.sectionTable
      rw [hentry]
      omega
    have hnum : (header content).shnum ≠ 0 := by
      intro hzero
      have hsome := h.someSection
      rw [hzero] at hsome
      exact Nat.not_succ_le_zero 0 hsome
    have hwhole : 64 * (header content).shnum.toNat ≤ content.length := by
      have htable := h.sectionTable
      omega
    exact ⟨⟨⟨⟨hlength, (take_four (by omega)).symm.trans h.magic,
      (getElem?_eq_some_iff_getD (by omega) 2).mp h.objectClass, hencoding, h.programTable,
      .inr hextent⟩, hnum, h.entrySize, .inr hwhole⟩, h.contents⟩, h.nameIndex, h.nameTable⟩

instance : Decidable (Acceptable content) :=
  decidable_of_iff (∀ check ∈ checks content, check.holds = true)
    (Check.run_eq_ok_iff.symm.trans run_checks_eq_ok_iff)

/-! ### The description -/

lemma drop_slice (start size offset : Nat) :
    (slice content start size).drop offset =
      slice content (start + offset) (start + size - (start + offset)) := by
  rw [slice, slice, List.drop_take, List.drop_drop]
  congr 1
  omega

lemma run_nameTable (offset : Nat) :
    (Layout.nameTable content).run offset = nameRun content offset := by
  rw [NameTable.run, Layout.nameTable, drop_slice]
  rfl

lemma ofHeaders_records :
    SectionSummary.ofHeaders (Layout.nameTable content) (records content) = rows content := by
  have hrow : ∀ i, SectionSummary.ofHeader (Layout.nameTable content) i (record content i) =
      row content i := by
    intro i
    rw [SectionSummary.ofHeader, NameTable.resolve, run_nameTable]
    rfl
  rw [SectionSummary.ofHeaders, zipIdx_records, List.map_map, rows]
  apply List.map_congr_left
  intro i hi
  exact hrow i

end Layout

namespace Analysis

/-- A file is accepted exactly if it satisfies the conditions, and then the analysis is its
header, the records of its table in their order, and a row for each of them. -/
theorem ofReader_eq_ok_iff {reader : Reader} (h : reader.Faithful) (path : String)
    (analysis : Analysis) :
    (ofReader reader path).1 = .ok analysis ↔
      Layout.Acceptable reader.content ∧ analysis =
        { path
          header := Layout.header reader.content
          sectionHeaders := Layout.records reader.content
          sections := Layout.rows reader.content } := by
  rw [ofReader_eq_run h, ← Layout.run_checks_eq_ok_iff, ← Layout.ofHeaders_records]
  cases hrun : Check.run (Layout.checks reader.content) with
  | error fault =>
    rw [error_bind]
    exact ⟨nofun, nofun⟩
  | ok _ =>
    rw [ok_bind, Except.ok.injEq, eq_self, true_and]
    exact eq_comm

/-- A header in a file of its own, with the identification for its first and only record. -/
def selfDescribing (shnum : UInt16) : FileHeader where
  ident := #v[0x7f, 0x45, 0x4c, 0x46, 2, 1, 1, 0, 0, 0, 0, 0, 0, 0, 0, 0]
  type := 0
  machine := 0
  version := 0
  entry := 0
  phoff := 0
  shoff := 0
  flags := 0
  ehsize := 0
  phentsize := 0
  phnum := 0
  shentsize := 64
  shnum
  shstrndx := 0

/-- A big-endian file with two sections, of which the second one holds the names. -/
theorem ofReader_namedSections :
    let reader := Reader.honest Image.twoSections.bytes
    reader.Faithful ∧ (ofReader reader "a").1 = .ok
      { path := "a"
        header := {
          ident := #v[0x7f, 0x45, 0x4c, 0x46, 2, 2, 1, 0, 0, 0, 0, 0, 0, 0, 0, 0]
          type := 1, machine := 22, version := 1, entry := 0, phoff := 0, shoff := 73, flags := 0,
          ehsize := 64, phentsize := 0, phnum := 0, shentsize := 64, shnum := 2, shstrndx := 1 }
        sectionHeaders := [
          { name := 1, type := 1, flags := 6, addr := 0, offset := 64, size := 2, link := 0,
            info := 0, addralign := 4, entsize := 0 },
          { name := 4, type := 3, flags := 0, addr := 0, offset := 66, size := 7, link := 0,
            info := 0, addralign := 1, entsize := 0 }]
        sections := [
          { index := 0, name := "ä", kind := "PROGBITS", vma := 0, size := 2, fileOffset := 64,
            flags := "AX", link := 0, info := 0, align := 4, entsize := 0 },
          { index := 1, name := ".n", kind := "STRTAB", vma := 0, size := 7, fileOffset := 66,
            flags := "", link := 0, info := 0, align := 1, entsize := 0 }] } := by
  intro reader
  have hfaithful : reader.Faithful := Reader.faithful_honest Image.twoSections.bytes_lt
  have hacceptable : Layout.Acceptable reader.content := by decide +kernel
  refine ⟨hfaithful, (ofReader_eq_ok_iff hfaithful "a" _).mpr ⟨hacceptable, ?_⟩⟩
  decide +kernel

/-- A file is refused for the first check that fails, and never for a failure of the reader. -/
theorem ofReader_eq_error_iff {reader : Reader} (h : reader.Faithful) (path : String)
    (fault : Fault) :
    (ofReader reader path).1 = .error fault ↔
      ∃ before check after, Layout.checks reader.content = before ++ check :: after ∧
        (∀ earlier ∈ before, earlier.holds = true) ∧ check.holds = false ∧
        fault = .format check.defect := by
  rw [ofReader_eq_run h, ← Check.run_eq_error_iff]
  cases hrun : Check.run (Layout.checks reader.content) with
  | error fault' => rw [error_bind, Except.error.injEq, Except.error.injEq]
  | ok _ =>
    rw [ok_bind]
    exact ⟨nofun, nofun⟩

/-- The same file without its last byte, and with the number of a section that it does not have
for its names: the first is refused for its table, and the second one for nothing else before. -/
theorem ofReader_namedSections_refused :
    let cut := Reader.honest (Image.twoSections.bytes.take 200)
    let misnamed := Reader.honest
      { Image.twoSections.toImageDraft with nameIndex := 2 : ImageDraft }.bytes
    (cut.Faithful ∧ (ofReader cut "a").1 =
      .error (.format (.truncated .sectionHeaderTable 73 128 127))) ∧
    misnamed.Faithful ∧ (ofReader misnamed "a").1 =
      .error (.format (.badReference .nameTable 2 2)) := by
  intro cut misnamed
  have hcut : cut.Faithful := Reader.faithful_honest (by decide +kernel)
  have hmisnamed : misnamed.Faithful := Reader.faithful_honest (by decide +kernel)
  refine ⟨⟨hcut, (ofReader_eq_error_iff hcut "a" _).mpr ?_⟩, hmisnamed,
    (ofReader_eq_error_iff hmisnamed "a" _).mpr ?_⟩
  · exact ⟨(Layout.checks cut.content).take 5, _, (Layout.checks cut.content).drop 6, rfl,
      by decide +kernel, by decide +kernel, by decide +kernel⟩
  · exact ⟨(Layout.checks misnamed.content).take 11, _,
      (Layout.checks misnamed.content).drop 12, rfl,
      by decide +kernel, by decide +kernel, by decide +kernel⟩

end Analysis

end ElfInspect
