import ElfInspect.Proofs.Acceptance
import ElfInspect.Proofs.Accounts
import ElfInspect.Proofs.Agreement
import ElfInspect.Proofs.Image

/-!
# Which bytes have influence

An analysis reads the header, the table that the header places, and the name table that a
record of it places. Two files of the same length with the same bytes there have the same
outcome and the same log, whatever stands elsewhere and wherever the analysis ends. A range
counts only where it is declared and lies inside the file.
-/

namespace ElfInspect

namespace Layout

variable {content : Bytes}

lemma parse_of_headerChecks (h : Check.run (headerChecks content) = .ok ()) :
    FileHeader.parse content = .ok (header content) := by
  have hlength := (forall_headerChecks.mp (Check.run_eq_ok_iff.mp h)).1
  rw [parse_eq_run hlength, run_identChecks h, ok_bind]

lemma eq_header_of_parse {found : FileHeader} (h : FileHeader.parse content = .ok found) :
    found = header content := by
  by_cases hlength : 64 ≤ content.length
  · rw [parse_eq_run hlength, check_bind_eq_ok_iff] at h
    exact h.2.symm
  · have hshort : content.length < FileHeader.byteSize := by
      rw [FileHeader.byteSize]
      omega
    rw [FileHeader.parse, if_pos hshort] at h
    cases h

lemma sectionTable_le (hheader : Check.run (headerChecks content) = .ok ())
    (htable : Check.run (tableChecks content) = .ok ()) :
    (header content).shoff.toNat + 64 * (header content).shnum.toNat ≤ content.length := by
  obtain ⟨-, hsize, hwhole⟩ := forall_tableChecks.mp (Check.run_eq_ok_iff.mp htable)
  by_cases hshoff : (header content).shoff = 0
  · have hfront := hwhole.resolve_left (not_not_intro hshoff)
    have hstart : (header content).shoff.toNat = 0 := congrArg UInt64.toNat hshoff
    omega
  · exact table_fits hheader hsize hshoff

/-- The files have the same bytes in a range, if it lies inside them. -/
def AgreeOn (first second : Bytes) (start size : Nat) : Prop :=
  start + size ≤ first.length → slice first start size = slice second start size

instance (first second : Bytes) (start size : Nat) : Decidable (AgreeOn first second start size) :=
  inferInstanceAs (Decidable (_ → _))

/-- The files have the same length and the same bytes wherever the first one declares its
metadata to be. -/
structure SameMetadata (first second : Bytes) : Prop where
  length : first.length = second.length
  front : first.take 64 = second.take 64
  table : ∀ header, FileHeader.parse first = .ok header →
    AgreeOn first second header.shoff.toNat (64 * header.shnum.toNat)
  names : ∀ header, FileHeader.parse first = .ok header →
    header.shoff.toNat + 64 * header.shnum.toNat ≤ first.length →
    header.shstrndx.toNat < header.shnum.toNat →
    AgreeOn first second (nameRecord first).offset.toNat (nameRecord first).size.toNat

end Layout

namespace File

open Account

section Results

variable {file : File} (hfull : file.length.toNat = file.content.length)

include hfull

lemma eq_header_of_result {found : FileHeader} (h : file.header.result = .ok found) :
    Check.run (Layout.headerChecks file.content) = .ok () ∧
      found = Layout.header file.content := by
  rw [result_header hfull, check_bind_eq_ok_iff] at h
  exact ⟨h.1, h.2.symm⟩

lemma eq_records_of_result (hheader : Check.run (Layout.headerChecks file.content) = .ok ())
    {found : List SectionHeader}
    (h : (file.sections (Layout.header file.content)).result = .ok found) :
    found = Layout.records file.content ∧ ((Layout.header file.content).shnum ≠ 0 →
      Check.run (Layout.tableChecks file.content) = .ok ()) := by
  by_cases hnum : (Layout.header file.content).shnum = 0
  · -- Without records the table is not checked at all.
    rw [result_sections_of_shnum_eq_zero hnum, Except.ok.injEq] at h
    have hrecords : Layout.records file.content = [] := by
      rw [Layout.records, hnum]
      rfl
    exact ⟨h.symm.trans hrecords.symm, fun hne => (hne hnum).elim⟩
  · rw [result_sections hfull hheader hnum, check_bind_eq_ok_iff, Check.run_eq_ok_iff] at h
    refine ⟨h.2.symm, fun _ => Check.run_eq_ok_iff.mpr fun check hcheck => ?_⟩
    exact h.1 check (List.mem_append_left _ hcheck)

end Results

section SameMetadata

variable {first second : File} (hlength : first.length = second.length)
  (hfull : first.length.toNat = first.content.length)
  (h : Layout.SameMetadata first.content second.content)

include hlength hfull h

omit hfull in
lemma header_eq_of_sameMetadata : first.header = second.header := by
  apply header_congr hlength
  apply read_congr hlength
  intro _
  exact slice_congr h.front (Nat.le_refl 64)

lemma sections_eq_of_sameMetadata
    (hparse : FileHeader.parse first.content = .ok (Layout.header first.content)) :
    first.sections (Layout.header first.content) =
      second.sections (Layout.header first.content) := by
  apply sections_congr hlength
  apply read_congr hlength
  intro hfits
  rw [extent_size, extent_offset, hfull] at hfits
  rw [extent_size, extent_offset]
  exact h.table _ hparse hfits

lemma names_eq_of_sameMetadata
    (hparse : FileHeader.parse first.content = .ok (Layout.header first.content))
    (htable : (Layout.header first.content).shnum ≠ 0 →
      (Layout.header first.content).shoff.toNat + 64 * (Layout.header first.content).shnum.toNat ≤
        first.content.length) :
    first.names (Layout.header first.content) (Layout.records first.content) =
      second.names (Layout.header first.content) (Layout.records first.content) := by
  apply names_congr
  intro sh hsh
  have hindex : (Layout.header first.content).shstrndx.toNat <
      (Layout.header first.content).shnum.toNat := by
    have hlt := (List.getElem?_eq_some_iff.mp hsh).1
    rwa [length_records] at hlt
  have hne : (Layout.header first.content).shnum ≠ 0 := by
    intro hzero
    rw [hzero] at hindex
    exact Nat.not_lt_zero _ hindex
  rw [getElem?_records_of_lt hindex, Option.some_inj] at hsh
  subst hsh
  apply read_congr hlength
  intro hfits
  rw [hfull] at hfits
  exact h.names _ hparse (htable hne) hindex hfits

theorem analysis_eq_of_sameMetadata (path : String) :
    first.analysis path = second.analysis path := by
  apply Agree.eq
  have hheader : Agree
      (fun x y => x = Layout.header first.content ∧ y = Layout.header first.content)
      first.header second.header := by
    apply (agree_of_eq (header_eq_of_sameMetadata hlength h)).imp
    rintro x y hx ⟨rfl, -⟩
    have hfound := (eq_header_of_result hfull hx).2
    exact ⟨hfound, hfound⟩
  have hsections : first.header.result = .ok (Layout.header first.content) → Agree
      (fun x y => x = Layout.records first.content ∧ y = Layout.records first.content)
      (first.sections (Layout.header first.content))
      (second.sections (Layout.header first.content)) := by
    intro hread
    have hpassed := (eq_header_of_result hfull hread).1
    have hparse := Layout.parse_of_headerChecks hpassed
    apply (agree_of_eq (sections_eq_of_sameMetadata hlength hfull h hparse)).imp
    rintro x y hx ⟨rfl, -⟩
    have hfound := (eq_records_of_result hfull hpassed hx).1
    exact ⟨hfound, hfound⟩
  apply (analysis_agree hlength hheader hsections ?_ path).imp
  · rintro x y - ⟨rows, rfl, rfl⟩
    rfl
  · intro hread hlisted
    have hpassed := (eq_header_of_result hfull hread).1
    have htable := (eq_records_of_result hfull hpassed hlisted).2
    exact names_eq_of_sameMetadata hlength hfull h (Layout.parse_of_headerChecks hpassed)
      fun hne => Layout.sectionTable_le hpassed (htable hne)

end SameMetadata

end File

namespace Analysis

/-- Only the declared metadata has influence, on files that are accepted and on all others. -/
theorem ofReader_eq_of_sameMetadata {first second : Reader} (hfirst : first.Faithful)
    (hsecond : second.Faithful) (h : Layout.SameMetadata first.content second.content)
    (path : String) : ofReader first path = ofReader second path := by
  have hreported : first.reportedLength = second.reportedLength :=
    UInt64.toNat_inj.mp (by rw [hfirst.length, hsecond.length, h.length])
  have haccount : File.analysis ⟨first.content, first.reportedLength⟩ path =
      File.analysis ⟨second.content, second.reportedLength⟩ path :=
    File.analysis_eq_of_sameMetadata hreported hfirst.length h path
  rw [ofReader_eq_account hfirst.readFault hfirst.seekFault,
    ofReader_eq_account hsecond.readFault hsecond.seekFault, Reader.file_of_faithful hfirst,
    Reader.file_of_faithful hsecond, haccount]

/-- The contents of the first section and three bytes behind the table are not looked at. -/
theorem ofReader_twoSections_overwritten :
    let first := Image.twoSections.bytes ++ [1, 2, 3]
    let second := Image.twoSections.bytes.set 65 0 ++ [4, 5, 6]
    first[65]? = some 0xfe ∧ Layout.SameMetadata first second ∧
      ofReader (Reader.honest first) "a" = ofReader (Reader.honest second) "a" := by
  intro first second
  have htable : Layout.AgreeOn first second (Layout.header first).shoff.toNat
      (64 * (Layout.header first).shnum.toNat) := by decide +kernel
  have hnames : Layout.AgreeOn first second (Layout.nameRecord first).offset.toNat
      (Layout.nameRecord first).size.toNat := by decide +kernel
  have hsame : Layout.SameMetadata first second := {
    length := by decide +kernel
    front := by decide +kernel
    table := by
      intro header hparse
      rw [Layout.eq_header_of_parse hparse]
      exact htable
    names := fun _ _ _ _ => hnames }
  refine ⟨by decide +kernel, hsame, ?_⟩
  exact ofReader_eq_of_sameMetadata (Reader.faithful_honest (by decide +kernel))
    (Reader.faithful_honest (by decide +kernel)) hsame "a"

end Analysis

end ElfInspect
