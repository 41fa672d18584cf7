import ElfInspect.Proofs.Accounts
import ElfInspect.Proofs.Postconditions

/-!
# What one stage leaves to the next

A header that was read has passed the check of its tables, and sections that were read have
passed theirs. The later stages check their ranges once more, with an entry size of their own
and for all sections alike. So little is left that they can refuse: a section header table that
the header does not declare, and a name table in a section without contents in the file.
-/

namespace ElfInspect

/-- The fault refuses a range that ends behind the length. -/
def Fault.RefusesRange (fault : Fault) (part : Part) (length : UInt64) : Prop :=
  ∃ offset expected actual,
    fault = .format (.truncated part offset expected actual) ∧
      length.toNat < offset.toNat + expected.toNat

/-- A reader that fails or stops short refuses no range. -/
lemma Source.Denies.outside_of_refusesRange {source : Source} {part part' : Part}
    {extent : Extent} {fault : Fault} (h : source.Denies part extent fault)
    (hrefuses : fault.RefusesRange part' source.length) :
    source.length.toNat < extent.offset.toNat + extent.size.toNat := by
  obtain ⟨offset, expected, actual, hfault, hlong⟩ := hrefuses
  cases h with
  | io => cases hfault
  | outside hlong => exact hlong
  | short hinside _ _ =>
    cases hfault
    exact (Nat.not_lt.mpr hinside hlong).elim

namespace SectionTable

variable {source : Source} {header : FileHeader}

lemma not_unsupportedEncoding {order : ByteOrder} (horder : header.byteOrder? = some order)
    (code : UInt8) :
    (read header source).result ≠ .error (.format (.unsupportedEncoding code)) := by
  intro hresult
  cases (ensures_read source header source (.refl source)).fault _ hresult with
  | unsupportedEncoding hnone =>
    rw [horder] at hnone
    cases hnone
  | read _ _ hread => cases hread

lemma result_read_of_outside {order : ByteOrder} (horder : header.byteOrder? = some order)
    (hnum : header.shnum ≠ 0) (hsize : header.shentsize = 64)
    (hlong : source.length.toNat < header.shoff.toNat + 64 * header.shnum.toNat) :
    (read header source).result = .error (.format (.truncated .sectionHeaderTable header.shoff
      (extent header).size (source.length.toNat - header.shoff.toNat).toUInt64)) := by
  have houtside : source.length.toNat <
      (extent header).offset.toNat + (extent header).size.toNat := by
    rw [File.extent_size, File.extent_offset]
    exact hlong
  rw [read_of_byteOrder?_eq_some hnum hsize horder, readRecords,
    Inspection.bind_apply_of_error (Inspection.readAt_of_outside houtside)]
  rfl

/-- Behind a header whose tables lie in the file, the one table that can be refused for its range
is a table that the header does not declare. -/
theorem refusesRange_read_iff {order : ByteOrder} (horder : header.byteOrder? = some order)
    (hfit : header.TablesFit source.length.toNat) :
    (∃ fault, (read header source).result = .error fault ∧
      fault.RefusesRange .sectionHeaderTable source.length) ↔
      header.shentsize = 64 ∧ header.shoff = 0 ∧
        source.length.toNat < 64 * header.shnum.toNat := by
  constructor
  · rintro ⟨fault, hresult, hrefuses⟩
    cases (ensures_read source header source (.refl source)).fault _ hresult with
    | badEntrySize | unsupportedEncoding | misplaced =>
      obtain ⟨_, _, _, hfault, -⟩ := hrefuses
      cases hfault
    | read hnum hsize hread =>
      have hlong := hread.outside_of_refusesRange hrefuses
      rw [File.extent_size, File.extent_offset] at hlong
      have hsixtyFour : header.shentsize.toNat = 64 := by
        rw [hsize]
        rfl
      rcases hfit.sections with hzero | hfits
      · have hnone : header.shoff.toNat = 0 := by
          rw [hzero]
          rfl
        exact ⟨hsize, hzero, by omega⟩
      · rw [hsixtyFour] at hfits
        omega
  · rintro ⟨hsize, hzero, hlong⟩
    have hnum : header.shnum ≠ 0 := by
      rintro hnum
      rw [hnum] at hlong
      exact Nat.not_lt_zero _ hlong
    have houtside : source.length.toNat < header.shoff.toNat + 64 * header.shnum.toNat :=
      Nat.lt_of_lt_of_le hlong (Nat.le_add_left _ _)
    refine ⟨_, result_read_of_outside horder hnum hsize houtside, _, _, _, rfl, ?_⟩
    rw [File.extent_size]
    exact houtside

end SectionTable

namespace NameTable

variable {source : Source} {header : FileHeader} {sections : List SectionHeader}

lemma badReference_iff :
    (∃ part index count, (load header sections source).result =
      .error (.format (.badReference part index count))) ↔
      sections.length ≤ header.shstrndx.toNat := by
  constructor
  · rintro ⟨part, index, count, hresult⟩
    cases (ensures_load source header sections source (.refl source)).fault _ hresult with
    | badReference hindex => exact hindex
    | read _ hread => cases hread
  · intro hindex
    rw [load_of_getElem?_eq_none (List.getElem?_eq_none_iff.mpr hindex)]
    exact ⟨_, _, _, rfl⟩

section Named

variable {sh : SectionHeader} (hsh : sections[header.shstrndx.toNat]? = some sh)

include hsh

lemma outside_of_load {part : Part} {fault : Fault}
    (h : (load header sections source).result = .error fault)
    (hrefuses : fault.RefusesRange part source.length) :
    source.length.toNat < sh.offset.toNat + sh.size.toNat := by
  cases (ensures_load source header sections source (.refl source)).fault fault h with
  | badReference =>
    obtain ⟨_, _, _, hfault, -⟩ := hrefuses
    cases hfault
  | read hsh' hread =>
    rw [hsh, Option.some.injEq] at hsh'
    subst hsh'
    exact hread.outside_of_refusesRange hrefuses

lemma size_of_load {table : NameTable} (h : (load header sections source).result = .ok table) :
    table.size = sh.size.toNat := by
  obtain ⟨sh', hsh', hsize⟩ :=
    (ensures_load source header sections source (.refl source)).value table h
  rw [hsh, Option.some.injEq] at hsh'
  rw [hsize, hsh']

/-- A section that lies in a file is loaded from a source that serves the file in full. -/
lemma exists_load {content : Bytes} (hserves : source.Serves ⟨content, source.length⟩)
    (hfull : content.length = source.length.toNat)
    (hfits : sh.offset.toNat + sh.size.toNat ≤ source.length.toNat) :
    ∃ table, (load header sections source).result = .ok table := by
  obtain ⟨rest, hrest, -⟩ :=
    Inspection.yields_loadNames header sections source hserves
  have hread : File.read ⟨content, source.length⟩ .nameTable sh.extent =
      pure (slice content sh.offset.toNat sh.size.toNat) :=
    File.read_of_le hfits (hfull ▸ hfits)
  rw [hrest, File.names, hsh]
  simp only [hread]
  exact ⟨_, rfl⟩

end Named

end NameTable

/-- A header is read from the bytes that were written for it, if its tables lie in the file. -/
lemma FileHeader.result_read_encode {source : Source} {header : FileHeader} {order : ByteOrder}
    {content rest : Bytes} {length : UInt64} (hserves : source.Serves ⟨content, length⟩)
    (hcontent : content = header.encode order ++ rest) (hdeclares : header.Declares order)
    (hlong : 64 ≤ length.toNat) (hfit : header.TablesFit length.toNat) :
    (read source).result = .ok header := by
  have hthere : 0 + 64 ≤ content.length := by
    rw [hcontent, List.length_append, length_encode]
    exact Nat.le_add_right _ _
  have hread : File.read ⟨content, length⟩ .fileHeader ⟨0, byteSize.toUInt64⟩ =
      pure (slice content 0 64) := File.read_of_le hlong hthere
  have hfront : slice content 0 64 = header.encode order ++ [] := by
    rw [hcontent, List.append_nil]
    exact List.take_left' (length_encode order header)
  rw [Inspection.yields_readHeader.result_eq hserves, File.result_header_eq, hread, hfront]
  change parse (header.encode order ++ []) >>= _ = _
  rw [parse_encode_append hdeclares, ok_bind, checkTables_eq_ok_iff.mpr hfit, ok_bind]

/-- What the reading of a header has passed holds of every source of the recorded length, so of
the source that it leaves. The byte order is known then; of the table only one that the header
does not declare can be out of range, and of the name table only one without contents in the
file. On a source that serves the file in full any other name table is loaded, and each that is
loaded has the size that its section states. -/
theorem FileHeader.handOver {source : Source} {header : FileHeader}
    (hheader : (read source).result = .ok header) :
    (read source).source.length = source.length ∧
    ∀ later : Source, later.length = source.length →
      (∀ code, (SectionTable.read header later).result ≠
        .error (.format (.unsupportedEncoding code))) ∧
      ((∃ fault, (SectionTable.read header later).result = .error fault ∧
          fault.RefusesRange .sectionHeaderTable source.length) ↔
        header.shentsize = 64 ∧ header.shoff = 0 ∧
          source.length.toNat < 64 * header.shnum.toNat) ∧
      ∀ sections, (SectionTable.read header later).result = .ok sections →
        (SectionTable.read header later).source.length = source.length ∧
        sections.length = header.shnum.toNat ∧
        ∀ last : Source, last.length = source.length →
          ((∃ part index count, (NameTable.load header sections last).result =
              .error (.format (.badReference part index count))) ↔
            sections.length ≤ header.shstrndx.toNat) ∧
          ∀ sh, sections[header.shstrndx.toNat]? = some sh →
            (∀ part fault, (NameTable.load header sections last).result = .error fault →
              fault.RefusesRange part source.length → sh.type = 8) ∧
            (∀ content, last.Serves ⟨content, last.length⟩ →
              content.length = last.length.toNat → sh.type ≠ 8 →
              ∃ table, (NameTable.load header sections last).result = .ok table) ∧
            ∀ table, (NameTable.load header sections last).result = .ok table →
              table.size = sh.size.toNat := by
  have hread := ensures_read source source (.refl source)
  obtain ⟨⟨order, horder⟩, hfit⟩ := hread.value header hheader
  refine ⟨hread.later.length, ?_⟩
  intro later hlater
  rw [← hlater] at hfit
  refine ⟨SectionTable.not_unsupportedEncoding horder, ?_, ?_⟩
  · rw [← hlater]
    exact SectionTable.refusesRange_read_iff horder hfit
  · intro sections hsections
    have htable := SectionTable.ensures_read later header later (.refl later)
    obtain ⟨hcount, hall⟩ := htable.value sections hsections
    refine ⟨htable.later.length.trans hlater, hcount, ?_⟩
    intro last hlast
    refine ⟨NameTable.badReference_iff, ?_⟩
    intro sh hsh
    have hcontained : sh.Contained last.length.toNat := by
      rw [hlast, ← hlater]
      exact hall sh (List.mem_of_getElem? hsh)
    refine ⟨?_, ?_, fun table => NameTable.size_of_load hsh⟩
    · intro part fault hfault hrefuses
      rw [← hlast] at hrefuses
      have hlong := NameTable.outside_of_load hsh hfault hrefuses
      refine Decidable.byContradiction fun htype => ?_
      exact Nat.not_lt.mpr (hcontained htype) hlong
    · intro content hserves hfull htype
      exact NameTable.exists_load hsh hserves hfull (hcontained htype)

open Analysis in
/-- A file of two sections, from its header to its seven bytes of names, and a header that counts a
section more than its file has room for. -/
theorem FileHeader.handOver_twoSections :
    let image := Image.twoSections
    let source := Source.ofBytes image.bytes
    let crowded := Source.ofBytes ((selfDescribing 2).encode .little)
    ((read source).result = .ok image.header ∧
      (SectionTable.read image.header source).result = .ok image.records ∧
      ∃ table, (NameTable.load image.header image.records source).result = .ok table ∧
        table.size = 7) ∧
    (read crowded).result = .ok (selfDescribing 2) ∧
      ∃ fault, (SectionTable.read (selfDescribing 2) crowded).result = .error fault ∧
        fault.RefusesRange .sectionHeaderTable crowded.length := by
  intro image source crowded
  have hlength : UInt64.toNat 201 = image.bytes.length := by decide +kernel
  have hsource : source.length = 201 := by decide +kernel
  have hserves : source.Serves ⟨image.bytes, 201⟩ := ⟨rfl, rfl, rfl, hsource⟩
  have hdeclares : image.header.Declares .big :=
    ⟨by decide +kernel, by decide +kernel, by decide +kernel⟩
  have hheader : (read source).result = .ok image.header :=
    result_read_encode hserves (List.append_assoc ..) hdeclares (by decide)
      ⟨.inl rfl, .inr (by decide)⟩
  have hrecords : (SectionTable.read image.header source).result = .ok image.records := by
    have hstands : SectionTable.Stands image.bytes image.header .big image.records := {
      someSection := by decide
      entrySize := rfl
      encoding := rfl
      within := by decide +kernel
      count := rfl
      bytes := by decide +kernel }
    have hall : ∀ sh ∈ image.records, sh.Contained image.bytes.length := by
      rw [← hlength]
      exact List.forall_mem_cons.mpr ⟨fun _ => by decide,
        List.forall_mem_singleton.mpr fun _ => by decide⟩
    rw [(Inspection.yields_readSections image.header).result_eq hserves]
    exact @SectionTable.Verdict.result_eq ⟨image.bytes, 201⟩ hlength _ _
      (.accepted hstands hall)
  obtain ⟨-, hleft⟩ := handOver hheader
  obtain ⟨-, -, hnames⟩ := hleft source rfl
  obtain ⟨-, -, hlast⟩ := hnames image.records hrecords
  obtain ⟨-, hload, hsize⟩ := (hlast source rfl).2 (image.record 1 image.sections[1]) rfl
  have hfull : image.bytes.length = source.length.toNat := by
    rw [hsource, hlength]
  obtain ⟨table, htable⟩ := hload image.bytes (hsource ▸ hserves) hfull (by decide)
  have hcrowdedLength : UInt64.toNat 64 = ((selfDescribing 2).encode .little).length :=
    (length_encode .little (selfDescribing 2)).symm
  have hcrowded : (read crowded).result = .ok (selfDescribing 2) :=
    @result_read_encode crowded _ _ _ _ 64
      ⟨rfl, rfl, rfl, congrArg Nat.toUInt64 hcrowdedLength.symm⟩ (List.append_nil _).symm
      ⟨rfl, rfl, rfl⟩ (Nat.le_refl _) ⟨.inl rfl, .inl rfl⟩
  obtain ⟨-, hcounted⟩ := handOver hcrowded
  obtain ⟨-, hrefuses, -⟩ := hcounted crowded rfl
  have hseven : (image.record 1 image.sections[1]).size.toNat = 7 := by decide
  have hnamed := (hsize table htable).trans hseven
  refine ⟨⟨hheader, hrecords, table, htable, hnamed⟩, hcrowded, ?_⟩
  exact hrefuses.mpr ⟨rfl, rfl, by decide⟩

end ElfInspect
