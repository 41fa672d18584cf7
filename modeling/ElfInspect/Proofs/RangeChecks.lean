import ElfInspect.Proofs.PositionedRead
import ElfInspect.Proofs.SectionRecords

/-!
# The range checks

A range is checked against the length of the file in three places: for the tables that a header
declares, for the sections of a table, and for the bytes of a read. All three are the comparison
of natural numbers, also where offset and size add up to more than a word holds, and a range
that is refused is refused with the same numbers.
-/

namespace ElfInspect

namespace Extent

/-- What a check of the extent against a length may come to: it passes if the extent lies in
the file, and is refused with the bytes that there are if not. -/
structure Judged (extent : Extent) (part : Part) (length : UInt64) (result : Except Fault Unit) :
    Prop where
  ok_iff : result = .ok () ↔ extent.offset.toNat + extent.size.toNat ≤ length.toNat
  error_iff (fault : Fault) : result = .error fault ↔
    length.toNat < extent.offset.toNat + extent.size.toNat ∧
      fault = .format (.truncated part extent.offset extent.size
        (length.toNat - extent.offset.toNat).toUInt64)

section Judged

variable {extent : Extent} {part : Part} {length : UInt64}

lemma judged_ok (h : extent.offset.toNat + extent.size.toNat ≤ length.toNat) :
    extent.Judged part length (.ok ()) where
  ok_iff := ⟨fun _ => h, fun _ => rfl⟩
  error_iff _ := ⟨nofun, fun hnot => (Nat.not_lt.mpr h hnot.1).elim⟩

lemma judged_error (h : length.toNat < extent.offset.toNat + extent.size.toNat) :
    extent.Judged part length (.error (.format (.truncated part extent.offset extent.size
      (length.toNat - extent.offset.toNat).toUInt64))) where
  ok_iff := ⟨nofun, fun hnot => (Nat.not_lt.mpr hnot h).elim⟩
  error_iff fault := by
    rw [Except.error.injEq]
    exact ⟨fun hfault => ⟨h, hfault.symm⟩, fun hfault => hfault.2.symm⟩

lemma judged_check (extent : Extent) (part : Part) (length : UInt64) :
    extent.Judged part length (extent.check part length) := by
  by_cases h : extent.offset.toNat + extent.size.toNat ≤ length.toNat
  · rw [check_eq_ok_iff.mpr h]
    exact judged_ok h
  · rw [check_of_outside (Nat.not_le.mp h)]
    exact judged_error (Nat.not_le.mp h)

end Judged

end Extent

/-- Behind sections that lie in the file, a section with contents there decides. -/
lemma SectionTable.judged_check {length : UInt64} {before : List SectionHeader}
    {record : SectionHeader} (hbefore : ∀ earlier ∈ before, earlier.Contained length.toNat)
    (htype : record.type ≠ 8) :
    record.extent.Judged (.sectionAt before.length) length
      (check length (before ++ [record])) := by
  by_cases h : record.offset.toNat + record.size.toNat ≤ length.toNat
  · have hall : ∀ sh ∈ before ++ [record], sh.Contained length.toNat :=
      List.forall_mem_append.mpr ⟨hbefore, List.forall_mem_singleton.mpr fun _ => h⟩
    rw [check_of_contained hall]
    exact Extent.judged_ok h
  · have hlong := Nat.not_le.mp h
    have hrecord : (before ++ [record])[before.length]? = some record :=
      List.getElem?_concat_length
    have htake : ∀ earlier ∈ (before ++ [record]).take before.length,
        earlier.Contained length.toNat := by
      rw [List.take_left]
      exact hbefore
    rw [check_of_misplaced hrecord htake htype hlong]
    exact Extent.judged_error hlong

/-- A read moves the cursor only once its extent has passed. -/
lemma Inspection.seeks_readAt_iff (part : Part) (extent : Extent) (source : Source) :
    (readAt part extent source).source.reader.seeks = source.reader.seeks + 1 ↔
      extent.offset.toNat + extent.size.toNat ≤ source.length.toNat := by
  by_cases h : extent.offset.toNat + extent.size.toNat ≤ source.length.toNat
  · refine iff_of_true ?_ h
    by_cases hseek : source.reader.FailsToSeek
    · obtain ⟨rest, hread, -, hseeks⟩ := @readAt_of_failsToSeek source part extent h hseek
      rw [hread, hseeks]
    · obtain ⟨rest, hread, -, hseeks⟩ := @readAt_of_not_failsToSeek source part extent h hseek
      rw [hread, hseeks]
  · rw [readAt_of_outside (Nat.not_le.mp h)]
    exact iff_of_false (Nat.succ_ne_self _).symm h

/-! ### The tables of a header -/

namespace FileHeader

/-- The tables that the header declares lie in a file of this length. -/
structure TablesFit (header : FileHeader) (length : Nat) : Prop where
  program : header.phnum = 0 ∨
    header.phoff.toNat + header.phnum.toNat * header.phentsize.toNat ≤ length
  sections : header.shoff = 0 ∨
    header.shoff.toNat + header.shnum.toNat * header.shentsize.toNat ≤ length

section Tables

variable {header : FileHeader} {length : UInt64}

/-- The product of two half words is a word. -/
lemma toNat_size_programTable (header : FileHeader) :
    header.programTable.size.toNat = header.phnum.toNat * header.phentsize.toNat :=
  toNat_mul_toUInt64 _ _

lemma toNat_size_sectionTable (header : FileHeader) :
    header.sectionTable.size.toNat = header.shnum.toNat * header.shentsize.toNat :=
  toNat_mul_toUInt64 _ _

lemma TablesFit.mono {shorter longer : Nat} (h : header.TablesFit shorter)
    (hle : shorter ≤ longer) : header.TablesFit longer where
  program := h.program.imp_right fun hprogram => Nat.le_trans hprogram hle
  sections := h.sections.imp_right fun hsections => Nat.le_trans hsections hle

theorem checkTables_eq_ok_iff :
    header.checkTables length = .ok () ↔ header.TablesFit length.toNat := by
  rw [checkTables_eq_run, Check.run_eq_ok_iff, List.forall_mem_cons, List.forall_mem_singleton]
  simp only [Check.exceptIf, Check.fits, Bool.or_eq_true, decide_eq_true_eq]
  exact ⟨fun h => ⟨h.1, h.2⟩, fun h => ⟨h.program, h.sections⟩⟩

/-- The program header table is looked at first. -/
theorem checkTables_of_program (hnum : header.phnum ≠ 0)
    (h : length.toNat < header.phoff.toNat + header.phnum.toNat * header.phentsize.toNat) :
    header.checkTables length = .error (.format (.truncated .programHeaderTable header.phoff
      header.programTable.size (length.toNat - header.phoff.toNat).toUInt64)) := by
  have hnot : (header.phnum = 0 || decide (header.phoff.toNat +
      header.phnum.toNat * header.phentsize.toNat ≤ length.toNat)) = false := by
    rw [decide_eq_false hnum, Bool.false_or]
    exact decide_eq_false (Nat.not_le.mpr h)
  rw [checkTables_eq_run, Check.run_cons_of_not_holds hnot]
  simp only [Check.exceptIf, Check.fits, ← toNat_size_programTable, toUInt64_toNat]

theorem checkTables_of_sections
    (hprogram : header.phnum = 0 ∨
      header.phoff.toNat + header.phnum.toNat * header.phentsize.toNat ≤ length.toNat)
    (hoffset : header.shoff ≠ 0)
    (h : length.toNat < header.shoff.toNat + header.shnum.toNat * header.shentsize.toNat) :
    header.checkTables length = .error (.format (.truncated .sectionHeaderTable header.shoff
      header.sectionTable.size (length.toNat - header.shoff.toNat).toUInt64)) := by
  have hholds : (header.phnum = 0 || decide (header.phoff.toNat +
      header.phnum.toNat * header.phentsize.toNat ≤ length.toNat)) = true := by
    rw [Bool.or_eq_true, decide_eq_true_eq, decide_eq_true_eq]
    exact hprogram
  have hnot : (header.shoff = 0 || decide (header.shoff.toNat +
      header.shnum.toNat * header.shentsize.toNat ≤ length.toNat)) = false := by
    rw [decide_eq_false hoffset, Bool.false_or]
    exact decide_eq_false (Nat.not_le.mpr h)
  rw [checkTables_eq_run, Check.run_cons_of_holds hholds, Check.run_cons_of_not_holds hnot]
  simp only [Check.exceptIf, Check.fits, ← toNat_size_sectionTable, toUInt64_toNat]

end Tables

end FileHeader

/-- The three checks are one: they let a range pass if and only if it ends within the file, counted
in natural numbers, and refuse it with the same numbers. So the tables of a header pass if each of them is
not declared or lies in the file; their sizes are products that no word cuts off, the program
header table is reported first, and a longer file is never worse. -/
theorem rangeChecks_agree (offset size length : UInt64) :
    (∀ part, Extent.Judged ⟨offset, size⟩ part length
        (Extent.check ⟨offset, size⟩ part length) ∧
      FileHeader.checkExtent part ⟨offset, size⟩ length =
        Extent.check ⟨offset, size⟩ part length ∧
      Inspection.checkExtent part ⟨offset, size⟩ length =
        Extent.check ⟨offset, size⟩ part length) ∧
    (∀ (index : Nat) (record : SectionHeader), record.extent = ⟨offset, size⟩ →
      record.checkExtent index length =
        Extent.check ⟨offset, size⟩ (.sectionAt index) length) ∧
    (∀ (before : List SectionHeader) (record : SectionHeader),
      (∀ earlier ∈ before, earlier.Contained length.toNat) → record.type ≠ 8 →
      record.extent = ⟨offset, size⟩ →
      Extent.Judged ⟨offset, size⟩ (.sectionAt before.length) length
        (SectionTable.check length (before ++ [record]))) ∧
    (∀ (part : Part) (source : Source), source.length = length →
      ((Inspection.readAt part ⟨offset, size⟩ source).source.reader.seeks =
        source.reader.seeks + 1 ↔ offset.toNat + size.toNat ≤ length.toNat) ∧
      (length.toNat < offset.toNat + size.toNat →
        Inspection.readAt part ⟨offset, size⟩ source =
          ⟨.error (.format (.truncated part offset size
            (length.toNat - offset.toNat).toUInt64)), [], source⟩)) ∧
    ∀ header : FileHeader,
      header.programTable.size.toNat = header.phnum.toNat * header.phentsize.toNat ∧
      header.sectionTable.size.toNat = header.shnum.toNat * header.shentsize.toNat ∧
      (header.checkTables length = .ok () ↔ header.TablesFit length.toNat) ∧
      (header.phnum ≠ 0 →
        length.toNat < header.phoff.toNat + header.phnum.toNat * header.phentsize.toNat →
        header.checkTables length = .error (.format (.truncated .programHeaderTable header.phoff
          header.programTable.size (length.toNat - header.phoff.toNat).toUInt64))) ∧
      (header.phnum = 0 ∨
          header.phoff.toNat + header.phnum.toNat * header.phentsize.toNat ≤ length.toNat →
        header.shoff ≠ 0 →
        length.toNat < header.shoff.toNat + header.shnum.toNat * header.shentsize.toNat →
        header.checkTables length = .error (.format (.truncated .sectionHeaderTable header.shoff
          header.sectionTable.size (length.toNat - header.shoff.toNat).toUInt64))) ∧
      ∀ longer : UInt64, length.toNat ≤ longer.toNat → header.checkTables length = .ok () →
        header.checkTables longer = .ok () := by
  refine ⟨fun part => ⟨Extent.judged_check _ part length, FileHeader.checkExtent_eq ..,
      Inspection.checkExtent_eq ..⟩, ?_, ?_, ?_, ?_⟩
  · intro index record hextent
    rw [SectionHeader.checkExtent_eq, hextent]
  · intro before record hbefore htype hextent
    rw [← hextent]
    exact SectionTable.judged_check hbefore htype
  · rintro part source rfl
    refine ⟨Inspection.seeks_readAt_iff part ⟨offset, size⟩ source, ?_⟩
    intro hlong
    exact Inspection.readAt_of_outside hlong
  · intro header
    refine ⟨header.toNat_size_programTable, header.toNat_size_sectionTable,
      FileHeader.checkTables_eq_ok_iff, FileHeader.checkTables_of_program,
      FileHeader.checkTables_of_sections, ?_⟩
    intro longer hle hok
    exact FileHeader.checkTables_eq_ok_iff.mpr
      ((FileHeader.checkTables_eq_ok_iff.mp hok).mono hle)

/-- A range whose end wraps to 1 is refused by all three, and both tables of a header that lie
past the end are reported by the first of them. -/
theorem rangeChecks_agree_wrapped :
    let far : Extent := ⟨0xffffffffffffffff, 2⟩
    let unplaced : SectionHeader :=
      { name := 0, type := 8, flags := 3, addr := 0, offset := 0xffffffffffffffff, size := 2,
        link := 0, info := 0, addralign := 1, entsize := 0 }
    let header : FileHeader :=
      { Analysis.selfDescribing 2 with
        phoff := 0xffffffffffffffff, phnum := 0xffff, phentsize := 0xffff, shoff := 64 }
    let source := Source.ofBytes [0x7f, 0x45]
    (FileHeader.checkExtent .nameTable far 2 =
        .error (.format (.truncated .nameTable 0xffffffffffffffff 2 0)) ∧
      unplaced.checkExtent 1 2 =
        .error (.format (.truncated (.sectionAt 1) 0xffffffffffffffff 2 0)) ∧
      Inspection.checkExtent .nameTable far 2 =
        .error (.format (.truncated .nameTable 0xffffffffffffffff 2 0))) ∧
      SectionTable.check 2 ([unplaced] ++ [{ unplaced with type := 1 }]) =
        .error (.format (.truncated (.sectionAt 1) 0xffffffffffffffff 2 0)) ∧
      Inspection.readAt .nameTable far source =
        ⟨.error (.format (.truncated .nameTable 0xffffffffffffffff 2 0)), [], source⟩ ∧
      header.checkTables 2 =
        .error (.format (.truncated .programHeaderTable 0xffffffffffffffff 0xfffe0001 0)) := by
  intro far unplaced header source
  obtain ⟨hcheck, hsection, hsections, hread, hheader⟩ :=
    rangeChecks_agree 0xffffffffffffffff 2 2
  have hlong : UInt64.toNat 2 < UInt64.toNat 0xffffffffffffffff + UInt64.toNat 2 := by decide
  have hbefore : ∀ earlier ∈ [unplaced], earlier.Contained (UInt64.toNat 2) :=
    List.forall_mem_singleton.mpr fun htype => (htype rfl).elim
  refine ⟨⟨?_, ?_, ?_⟩, ?_, ?_, ?_⟩
  · obtain ⟨hjudged, htable, -⟩ := hcheck .nameTable
    exact htable.trans ((hjudged.error_iff _).mpr ⟨hlong, rfl⟩)
  · obtain ⟨hjudged, -, -⟩ := hcheck (.sectionAt 1)
    exact (hsection 1 unplaced rfl).trans ((hjudged.error_iff _).mpr ⟨hlong, rfl⟩)
  · obtain ⟨hjudged, -, hbytes⟩ := hcheck .nameTable
    exact hbytes.trans ((hjudged.error_iff _).mpr ⟨hlong, rfl⟩)
  · exact ((hsections [unplaced] { unplaced with type := 1 } hbefore (by decide)
      rfl).error_iff _).mpr ⟨hlong, rfl⟩
  · exact (hread .nameTable source rfl).2 hlong
  · have hsize : header.programTable.size = 0xfffe0001 := by decide
    have hnone : (UInt64.toNat 2 - header.phoff.toNat).toUInt64 = 0 := by decide
    have hrefused := (hheader header).2.2.2.1 (by decide) (by decide)
    rw [hsize, hnone] at hrefused
    exact hrefused

end ElfInspect
