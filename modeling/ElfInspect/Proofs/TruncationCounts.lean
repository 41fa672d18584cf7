import ElfInspect.Proofs.FaultInjection
import ElfInspect.Proofs.Postconditions
import ElfInspect.Query
import Mathlib.Order.Interval.Finset.Nat

/-!
# The numbers of a truncation

A report that a piece of the file is truncated states where the piece begins, how many bytes were
expected and how many there are. Such reports are made by the check of a range and by a read
that ended early, in several places and from words that may wrap. In every one of them the
numbers are right: of a range that is not in the file they count its positions that are, and of a
read that ended early the bytes that were gathered.
-/

namespace ElfInspect

/-- What is said to be missing of a range: fewer bytes are there than expected, or none were
expected, but behind the end. -/
def Misses (length : Nat) (offset expected actual : UInt64) : Prop :=
  actual < expected ∨ expected = 0 ∧ actual = 0 ∧ length < offset.toNat

/-- The range ends behind the length, and `actual` of its positions lie before it. -/
structure Overruns (length : Nat) (offset expected actual : UInt64) : Prop where
  behind : length < offset.toNat + expected.toNat
  count : actual.toNat = ((Finset.Ico offset.toNat (offset.toNat + expected.toNat)).filter
    (· < length)).card

/-- The range lies within the length, but the reader gives no more than its first `actual`
bytes. -/
structure Reader.FallsShort (reader : Reader) (length : Nat) (offset expected actual : UInt64) :
    Prop where
  inside : offset.toNat + expected.toNat ≤ length
  fewer : actual < expected
  gathered : reader.gatherAt offset.toNat expected.toNat =
    .ok (slice reader.content offset.toNat actual.toNat)
  count : (slice reader.content offset.toNat actual.toNat).length = actual.toNat

/-- If the fault says that bytes are missing, there is one of the two reasons, with its numbers. -/
def Fault.CountsRightly (fault : Fault) (reader : Reader) (length : UInt64) : Prop :=
  ∀ part offset expected actual, fault = .format (.truncated part offset expected actual) →
    Overruns length.toNat offset expected actual ∨
      reader.FallsShort length.toNat offset expected actual

section Counts

variable {length : Nat} {reader other : Reader} {offset expected actual : UInt64}

lemma card_positions (offset expected length : Nat) :
    ((Finset.Ico offset (offset + expected)).filter (· < length)).card =
      min expected (length - offset) := by
  rw [Finset.Ico_filter_lt, Nat.card_Ico]
  omega

lemma toNat_toUInt64_of_le {n : Nat} {word : UInt64} (h : n ≤ word.toNat) :
    n.toUInt64.toNat = n :=
  UInt64.toNat_ofNat_of_lt' (Nat.lt_of_le_of_lt h word.toNat_lt)

/-- Up to the end of the file there are as many positions as there are bytes. -/
lemma overruns_of_lt (h : length < offset.toNat + expected.toNat)
    (hactual : actual.toNat = length - offset.toNat) : Overruns length offset expected actual where
  behind := h
  count := by
    rw [card_positions, hactual]
    omega

lemma overruns_of_outside {length : UInt64}
    (h : length.toNat < offset.toNat + expected.toNat) :
    Overruns length.toNat offset expected (length.toNat - offset.toNat).toUInt64 :=
  overruns_of_lt h (toNat_toUInt64_of_le (Nat.sub_le _ _))

lemma Overruns.misses (h : Overruns length offset expected actual) :
    Misses length offset expected actual := by
  have hbehind := h.behind
  have hcount := h.count
  rw [card_positions] at hcount
  by_cases hempty : expected = 0
  · subst hempty
    have hnone : actual.toNat = 0 := by
      rw [hcount]
      exact Nat.zero_min _
    exact .inr ⟨rfl, UInt64.toNat_inj.mp hnone, hbehind⟩
  · have hsome : expected.toNat ≠ 0 := fun hzero => hempty (UInt64.toNat_inj.mp hzero)
    exact .inl (UInt64.lt_iff_toNat_lt.mpr (by omega))

lemma Reader.FallsShort.congr (h : reader.FallsShort length offset expected actual)
    (hcontent : other.content = reader.content) (hchunk : other.chunk? = reader.chunk?)
    (hfault : other.readFault? = reader.readFault?) (herror : other.readError = reader.readError) :
    other.FallsShort length offset expected actual where
  inside := h.inside
  fewer := h.fewer
  gathered := by rw [gatherAt_congr hcontent hchunk hfault herror, hcontent, h.gathered]
  count := by rw [hcontent, h.count]

lemma misses_of_reason (h : Overruns length offset expected actual ∨
    reader.FallsShort length offset expected actual) : Misses length offset expected actual :=
  h.elim Overruns.misses fun hshort => .inl hshort.fewer

end Counts

/-! ### The numbers of each stage -/

section Stages

variable {source : Source} {fault : Fault}

lemma Source.Denies.countsRightly {part : Part} {extent : Extent}
    (h : source.Denies part extent fault) :
    fault.CountsRightly source.reader source.length := by
  rintro part' offset expected actual hfault
  cases h with
  | io => cases hfault
  | outside hlong =>
    cases hfault
    exact .inl (overruns_of_outside hlong)
  | @short bytes hinside hgather hshort =>
    cases hfault
    obtain ⟨hle, hslice⟩ := Reader.eq_slice_of_gatherAt hgather
    have hactual : bytes.length.toUInt64.toNat = bytes.length := toNat_toUInt64_of_le hle
    refine .inr { inside := hinside, fewer := ?_, gathered := ?_, count := ?_ }
    · rw [UInt64.lt_iff_toNat_lt, hactual]
      exact hshort
    · rw [hactual, ← hslice, hgather]
    · rw [hactual, ← hslice]

lemma FileHeader.overruns_of_checkTables {header : FileHeader} {length : UInt64} {part : Part}
    {offset expected actual : UInt64}
    (h : header.checkTables length = .error (.format (.truncated part offset expected actual))) :
    Overruns length.toNat offset expected actual := by
  by_cases hprogram : header.phnum = 0 ∨
      header.phoff.toNat + header.phnum.toNat * header.phentsize.toNat ≤ length.toNat
  · by_cases hsections : header.shoff = 0 ∨
        header.shoff.toNat + header.shnum.toNat * header.shentsize.toNat ≤ length.toNat
    · rw [checkTables_eq_ok_iff.mpr ⟨hprogram, hsections⟩] at h
      cases h
    · obtain ⟨hoffset, hlong⟩ := not_or.mp hsections
      rw [Nat.not_le] at hlong
      rw [checkTables_of_sections hprogram hoffset hlong] at h
      rw [← toNat_size_sectionTable] at hlong
      cases h
      exact overruns_of_outside hlong
  · obtain ⟨hnum, hlong⟩ := not_or.mp hprogram
    rw [Nat.not_le] at hlong
    rw [checkTables_of_program hnum hlong] at h
    rw [← toNat_size_programTable] at hlong
    cases h
    exact overruns_of_outside hlong

lemma FileHeader.Stops.countsRightly (h : FileHeader.Stops source fault) :
    fault.CountsRightly source.reader source.length := by
  cases h with
  | read hread => exact hread.countsRightly
  | badMagic | unsupportedClass | unsupportedEncoding => exact nofun
  | tables htables =>
    rintro part offset expected actual rfl
    exact .inl (overruns_of_checkTables htables)

lemma SectionTable.Stops.countsRightly {header : FileHeader}
    (h : SectionTable.Stops source header fault) :
    fault.CountsRightly source.reader source.length := by
  cases h with
  | badEntrySize | unsupportedEncoding => exact nofun
  | read _ _ hread => exact hread.countsRightly
  | misplaced _ hlong =>
    rintro part offset expected actual ⟨⟩
    exact .inl (overruns_of_outside hlong)

lemma NameTable.Stops.countsRightly {header : FileHeader} {sections : List SectionHeader}
    (h : NameTable.Stops source header sections fault) :
    fault.CountsRightly source.reader source.length := by
  cases h with
  | badReference => exact nofun
  | read _ hread => exact hread.countsRightly

lemma Analysis.Stops.countsRightly (h : Analysis.Stops source fault) :
    fault.CountsRightly source.reader source.length := by
  cases h with
  | header hheader => exact hheader.countsRightly
  | sections hsections => exact hsections.countsRightly
  | names hnames => exact hnames.countsRightly

end Stages

/-- Bytes too few for a header are themselves the file. -/
lemma FileHeader.overruns_of_parse {bytes : Bytes} {part : Part} {offset expected actual : UInt64}
    (h : parse bytes = .error (.format (.truncated part offset expected actual))) :
    Overruns bytes.length offset expected actual := by
  obtain ⟨result, hverdict⟩ := exists_verdict bytes
  rw [hverdict.parse_eq] at h
  cases hverdict with
  | accepted | badMagic | unsupportedClass | unsupportedEncoding => cases h
  | truncated hlength =>
    cases h
    have hbound : bytes.length ≤ UInt64.toNat 64 := Nat.le_of_lt hlength
    exact overruns_of_lt (Nat.lt_of_lt_of_le hlength (Nat.le_add_left _ _))
      (toNat_toUInt64_of_le hbound)

namespace Query

/-- The length that ranges are checked against: a check of tables brings its own. -/
def fileLength (query : Query) (source : Source) : UInt64 :=
  match query with
  | checkTables _ fileLength => fileLength
  | _ => source.length

/-- Whatever is asked, the numbers of a fault are right. -/
theorem ensures_perform (query : Query) (source : Source) :
    query.perform.Ensures source (fun _ => True)
      (fun fault => fault.CountsRightly source.reader (query.fileLength source)) := by
  cases query with
  | readAt part extent =>
    exact ((Inspection.ensures_readAt source part extent).imp_fault fun _ h =>
      h.countsRightly).bind fun _ _ => Inspection.ensures_pure trivial
  | readHeader =>
    exact ((FileHeader.ensures_read source).imp_fault fun _ h =>
      h.countsRightly).bind fun _ _ => Inspection.ensures_pure trivial
  | checkTables header fileLength =>
    apply Inspection.Ensures.bind (Inspection.ensures_ofExcept (fun _ _ => trivial) ?_)
      fun _ _ => Inspection.ensures_pure trivial
    rintro fault hfault part offset expected actual rfl
    exact .inl (FileHeader.overruns_of_checkTables hfault)
  | readSections header =>
    exact ((SectionTable.ensures_read source header).imp_fault fun _ h =>
      h.countsRightly).bind fun _ _ => Inspection.ensures_pure trivial
  | loadNames header sections =>
    exact ((NameTable.ensures_load source header sections).imp_fault fun _ h =>
      h.countsRightly).bind fun _ _ => Inspection.ensures_pure trivial

end Query

lemma Analysis.countsRightly_ofReader {reader : Reader} {path : String} {fault : Fault}
    (h : (ofReader reader path).1 = .error fault) :
    fault.CountsRightly reader reader.reportedLength := by
  rcases ofReader_cases reader path with herror | hinspect
  · cases herror.symm.trans h
    exact nofun
  · rw [hinspect] at h
    have hstops := ((ensures_inspect _ path) _ (.refl _)).fault fault h
    intro part offset expected actual hfault
    exact (hstops.countsRightly part offset expected actual hfault).imp_right
      fun hshort => hshort.congr rfl rfl rfl rfl

/-- Wherever it comes from, a report that a piece of the file is truncated is true: bytes are
missing, or a range without bytes starts behind the end. A range that ends behind the end is
reported with the number of its positions before it, any other with the number of bytes that
the reader gave, and these are the first ones. -/
theorem truncated_counts (part : Part) (offset expected actual : UInt64) :
    (∀ bytes, FileHeader.parse bytes =
        .error (.format (.truncated part offset expected actual)) →
      Misses bytes.length offset expected actual ∧
        Overruns bytes.length offset expected actual) ∧
    (∀ (header : FileHeader) (length : UInt64), header.checkTables length =
        .error (.format (.truncated part offset expected actual)) →
      Misses length.toNat offset expected actual ∧
        Overruns length.toNat offset expected actual) ∧
    (∀ (query : Query) (source : Source), (query.perform source).result =
        .error (.format (.truncated part offset expected actual)) →
      Misses (query.fileLength source).toNat offset expected actual ∧
        (Overruns (query.fileLength source).toNat offset expected actual ∨
          source.reader.FallsShort (query.fileLength source).toNat offset expected actual)) ∧
    ∀ (reader : Reader) (path : String), (Analysis.ofReader reader path).1 =
        .error (.format (.truncated part offset expected actual)) →
      Misses reader.reportedLength.toNat offset expected actual ∧
        (Overruns reader.reportedLength.toNat offset expected actual ∨
          reader.FallsShort reader.reportedLength.toNat offset expected actual) := by
  refine ⟨?_, ?_, ?_, ?_⟩
  · intro bytes hparse
    have hoverruns := FileHeader.overruns_of_parse hparse
    exact ⟨hoverruns.misses, hoverruns⟩
  · intro header length htables
    have hoverruns := FileHeader.overruns_of_checkTables htables
    exact ⟨hoverruns.misses, hoverruns⟩
  · intro query source hresult
    have hreason := (query.ensures_perform source source (.refl source)).fault _ hresult
      part offset expected actual rfl
    exact ⟨misses_of_reason hreason, hreason⟩
  · intro reader path hresult
    have hreason := Analysis.countsRightly_ofReader hresult part offset expected actual rfl
    exact ⟨misses_of_reason hreason, hreason⟩

/-- Five bytes of which nine were reported: a read into the part that is not there, an empty read
behind the end, and three bytes taken for a header. -/
theorem truncated_counts_misreported :
    let source : Source :=
      { reader := { content := [1, 2, 3, 4, 5], reportedLength := 9 }, length := 9 }
    let beyond := Query.readAt .nameTable ⟨4, 4⟩
    let empty := Query.readAt .nameTable ⟨10, 0⟩
    ((beyond.perform source).result = .error (.format (.truncated .nameTable 4 4 1)) ∧
      source.reader.FallsShort 9 4 4 1) ∧
    ((empty.perform source).result = .error (.format (.truncated .nameTable 10 0 0)) ∧
      Misses 9 10 0 0) ∧
    FileHeader.parse [1, 2, 3] = .error (.format (.truncated .fileHeader 0 64 3)) ∧
      Overruns 3 0 64 3 := by
  intro source beyond empty
  have hbeyond : (beyond.perform source).result =
      .error (.format (.truncated .nameTable 4 4 1)) := by
    have hinside : UInt64.toNat 4 + UInt64.toNat 4 ≤ source.length.toNat := by decide
    have hgather : source.reader.gatherAt (UInt64.toNat 4) (UInt64.toNat 4) = .ok [5] :=
      Reader.gatherAt_of_not_meets nofun
    obtain ⟨rest, hread, -⟩ :=
      @Inspection.readAt_of_not_failsToSeek source .nameTable ⟨4, 4⟩ hinside nofun
    rw [hgather] at hread
    exact congrArg Outcome.result (Inspection.bind_apply_of_error hread)
  have hempty : (empty.perform source).result =
      .error (.format (.truncated .nameTable 10 0 0)) := by
    have hread := @Inspection.readAt_of_outside source .nameTable ⟨10, 0⟩ (by decide)
    exact congrArg Outcome.result (Inspection.bind_apply_of_error hread)
  have hparse : FileHeader.parse [1, 2, 3] =
      .error (.format (.truncated .fileHeader 0 64 3)) := rfl
  refine ⟨⟨hbeyond, ?_⟩, ⟨hempty, ?_⟩, hparse, ?_⟩
  · obtain ⟨-, hoverruns | hshort⟩ := (truncated_counts ..).2.2.1 beyond source hbeyond
    · exact absurd hoverruns.behind (by decide)
    · exact hshort
  · exact ((truncated_counts ..).2.2.1 empty source hempty).1
  · exact ((truncated_counts ..).1 [1, 2, 3] hparse).2

end ElfInspect
