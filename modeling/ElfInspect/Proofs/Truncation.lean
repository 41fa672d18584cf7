import ElfInspect.Proofs.Acceptance
import ElfInspect.Proofs.Agreement
import ElfInspect.Proofs.Image

/-!
# Files that are cut off or go on

An accepted file has to reach up to the end of its tables, of the contents of its sections and
of its name table, and nothing behind the last of these ends is looked at. Cut off behind it,
or followed by any bytes, the file has the same analysis; cut off before it, the file is
reported as truncated, whichever of the ends the cut took away.
-/

namespace ElfInspect

/-- The end of the program header table, if there is one. -/
def FileHeader.programStops (header : FileHeader) : List Nat :=
  if header.phnum = 0 then []
  else [header.phoff.toNat + header.phnum.toNat * header.phentsize.toNat]

lemma FileHeader.forall_programStops {header : FileHeader} {k : Nat} :
    (∀ stop ∈ header.programStops, stop ≤ k) ↔ header.phnum = 0 ∨
      header.phoff.toNat + header.phnum.toNat * header.phentsize.toNat ≤ k := by
  unfold programStops
  by_cases h : header.phnum = 0
  · rw [if_pos h]
    exact ⟨fun _ => .inl h, fun _ => List.forall_mem_nil _⟩
  · rw [if_neg h, List.forall_mem_singleton]
    exact ⟨.inr, fun hle => hle.resolve_left h⟩

namespace Analysis

/-- The ends of all that an analysed file has to hold. -/
def stops (analysis : Analysis) : List Nat :=
  let contents := analysis.sectionHeaders.filter fun sh => !sh.isNobits
  let names := analysis.sectionHeaders[analysis.header.shstrndx.toNat]?.toList
  64 :: (analysis.header.shoff.toNat + 64 * analysis.header.shnum.toNat) ::
    (analysis.header.programStops ++
      (contents ++ names).map fun sh => sh.offset.toNat + sh.size.toNat)

/-- How far an analysed file has to reach. -/
def reach (analysis : Analysis) : Nat :=
  analysis.stops.max (List.cons_ne_nil _ _)

lemma reach_le_iff {analysis : Analysis} {k : Nat} :
    analysis.reach ≤ k ↔ ∀ stop ∈ analysis.stops, stop ≤ k :=
  List.max_le_iff _

end Analysis

/-- The defect is that bytes are missing. -/
def FormatError.IsTruncation (error : FormatError) : Prop :=
  ∃ part offset expected actual, error = .truncated part offset expected actual

namespace Layout

variable {content first second : Bytes} {k : Nat} {path : String}

/-- The first `k` bytes hold everything that is looked at. -/
structure Within (content : Bytes) (k : Nat) : Prop where
  header : 64 ≤ k
  programTable : (Layout.header content).phnum = 0 ∨
    (Layout.header content).phoff.toNat +
      (Layout.header content).phnum.toNat * (Layout.header content).phentsize.toNat ≤ k
  sectionTable :
    (Layout.header content).shoff.toNat + 64 * (Layout.header content).shnum.toNat ≤ k
  contents : ∀ i < (Layout.header content).shnum.toNat, (record content i).type ≠ 8 →
    (record content i).offset.toNat + (record content i).size.toNat ≤ k
  nameTable : (nameRecord content).offset.toNat + (nameRecord content).size.toNat ≤ k

lemma Acceptable.within (h : Acceptable content) : Within content content.length where
  header := h.length
  programTable := h.programTable
  sectionTable := h.sectionTable
  contents := h.contents
  nameTable := h.nameTable

lemma forall_contents :
    (∀ sh ∈ (records content).filter fun sh => !sh.isNobits,
        sh.offset.toNat + sh.size.toNat ≤ k) ↔
      ∀ i < (Layout.header content).shnum.toNat, (record content i).type ≠ 8 →
        (record content i).offset.toNat + (record content i).size.toNat ≤ k := by
  have hnobits : ∀ sh : SectionHeader, sh.isNobits = false ↔ sh.type ≠ 8 :=
    fun sh => decide_eq_false_iff_not
  simp only [List.forall_mem_filter, records, List.forall_mem_map, List.mem_range,
    Bool.not_eq_true', hnobits]

lemma reach_analysis_le_iff
    (hindex : (header content).shstrndx.toNat < (header content).shnum.toNat) :
    (analysis content path).reach ≤ k ↔ Within content k := by
  have hname : (records content)[(header content).shstrndx.toNat]?.toList =
      [nameRecord content] := by
    rw [getElem?_records_of_lt hindex, nameRecord, Option.toList_some]
  rw [Analysis.reach_le_iff]
  simp only [Analysis.stops, analysis, hname, List.forall_mem_cons, List.forall_mem_append,
    List.forall_mem_map, forall_contents, FileHeader.forall_programStops]
  constructor
  · rintro ⟨hheader, htable, hprogram, hcontents, hnames, -⟩
    exact ⟨hheader, hprogram, htable, hcontents, hnames⟩
  · rintro ⟨hheader, hprogram, htable, hcontents, hnames⟩
    exact ⟨hheader, htable, hprogram, hcontents, hnames, List.forall_mem_nil _⟩

/-! ### Another file with the same front -/

section SameFront

variable (htake : first.take k = second.take k)

include htake

lemma front_eq_of_take_eq (h : 64 ≤ k) : slice first 0 64 = slice second 0 64 :=
  slice_congr htake (by omega)

lemma getElem?_eq_of_take_eq {i : Nat} (h : i < k) : first[i]? = second[i]? := by
  rw [← List.getElem?_take_of_lt h, htake, List.getElem?_take_of_lt h]

variable (hwithin : Within first k)

include hwithin

lemma table_eq_of_take_eq :
    slice first (header first).shoff.toNat (64 * (header first).shnum.toNat) =
      slice second (header first).shoff.toNat (64 * (header first).shnum.toNat) :=
  slice_congr htake hwithin.sectionTable

lemma analysis_eq_of_take_eq
    (hindex : (header first).shstrndx.toNat < (header first).shnum.toNat) :
    analysis first path = analysis second path :=
  analysis_congr (front_eq_of_take_eq htake hwithin.header)
    (table_eq_of_take_eq htake hwithin) hindex (slice_congr htake hwithin.nameTable) path

/-- Whatever holds the front of an accepted file as far as it is looked at is accepted too. -/
theorem acceptable_of_within (h : Acceptable first) (hk : k ≤ second.length) :
    Acceptable second := by
  have hfront := front_eq_of_take_eq htake hwithin.header
  have hk64 := hwithin.header
  have hheader := header_congr hfront
  have hrecord : ∀ i < (header first).shnum.toNat, record first i = record second i :=
    fun i hi => record_congr hfront (table_eq_of_take_eq htake hwithin) hi
  have hname := nameRecord_congr hfront (table_eq_of_take_eq htake hwithin) h.nameIndex
  have hmagic : first.take 4 = second.take 4 := by
    rw [← slice_zero, ← slice_zero]
    exact slice_congr htake (by omega)
  have hclass : first[4]? = second[4]? := getElem?_eq_of_take_eq htake (by omega)
  have hencoding : first[5]? = second[5]? := getElem?_eq_of_take_eq htake (by omega)
  have hprogram := hwithin.programTable
  have htable := hwithin.sectionTable
  have hnames := hwithin.nameTable
  rw [hheader] at hprogram htable
  rw [hname] at hnames
  exact {
    length := by omega
    magic := hmagic ▸ h.magic
    objectClass := hclass ▸ h.objectClass
    encoding := hencoding ▸ h.encoding
    programTable := hprogram.imp_right fun hle => by omega
    someSection := hheader ▸ h.someSection
    entrySize := hheader ▸ h.entrySize
    sectionTable := by omega
    contents := by
      intro i hi htype
      rw [← hheader] at hi
      rw [← hrecord i hi] at htype ⊢
      have hcontents := hwithin.contents i hi htype
      omega
    nameIndex := hheader ▸ h.nameIndex
    nameTable := by omega }

end SameFront

/-! ### The check that a cut makes fail -/

lemma isTruncation_fits {part : Part} {offset size length : Nat} :
    (Check.fits part offset size length).defect.IsTruncation :=
  ⟨_, _, _, _, rfl⟩

lemma isTruncation_exceptIf {check : Check} (h : check.defect.IsTruncation) (exempt : Bool) :
    (check.exceptIf exempt).defect.IsTruncation :=
  h

lemma holds_or_isTruncation (h : Acceptable first)
    (hfront : slice first 0 64 = slice second 0 64) {check : Check}
    (hcheck : check ∈ checks second) : check.holds = true ∨ check.defect.IsTruncation := by
  have hall := Check.run_eq_ok_iff.mp (run_checks_eq_ok_iff.mpr h)
  have hheader := header_congr hfront
  rw [checks, List.mem_append, List.mem_append, List.mem_append] at hcheck
  -- Where the length does not enter, the check is one that the accepted file passes.
  rcases hcheck with ((hfile | htable) | hrecord) | hname
  · rw [headerChecks, List.mem_cons, List.mem_append] at hfile
    rcases hfile with rfl | hident | hextent
    · exact .inr isTruncation_fits
    · rw [← identChecks_congr hfront] at hident
      have hmem : check ∈ headerChecks first :=
        List.mem_cons_of_mem _ (List.mem_append_left _ hident)
      exact .inl (hall check (List.mem_append_left _ (List.mem_append_left _
        (List.mem_append_left _ hmem))))
    · right
      rw [extentChecks, List.mem_cons, List.mem_singleton] at hextent
      rcases hextent with rfl | rfl
      · exact isTruncation_exceptIf isTruncation_fits _
      · exact isTruncation_exceptIf isTruncation_fits _
  · rw [tableChecks, List.mem_cons, List.mem_cons, List.mem_singleton] at htable
    rcases htable with rfl | rfl | rfl
    · left
      apply decide_eq_true
      rw [← hheader]
      intro hzero
      have hsome := h.someSection
      rw [hzero] at hsome
      exact Nat.not_succ_le_zero 0 hsome
    · left
      apply decide_eq_true
      rw [← hheader]
      exact h.entrySize
    · exact .inr (isTruncation_exceptIf isTruncation_fits _)
  · right
    obtain ⟨i, -, rfl⟩ := List.mem_map.mp hrecord
    exact isTruncation_exceptIf isTruncation_fits _
  · rw [nameChecks, List.mem_cons, List.mem_singleton] at hname
    rcases hname with rfl | rfl
    · left
      apply decide_eq_true
      rw [← hheader]
      exact h.nameIndex
    · exact .inr isTruncation_fits

lemma run_checks_of_length_lt (h : content.length < 64) :
    Check.run (checks content) =
      .error (.format (Check.fits .fileHeader 0 64 content.length).defect) := by
  rw [checks, headerChecks, List.cons_append, List.cons_append, List.cons_append]
  exact Check.run_cons_of_not_holds (decide_eq_false (by omega)) _

/-- A front of an accepted file passes all checks or is found to be truncated. -/
lemma acceptable_or_isTruncation (h : Acceptable first)
    (hfront : 64 ≤ second.length → slice first 0 64 = slice second 0 64) :
    Acceptable second ∨ ∃ error : FormatError, error.IsTruncation ∧
      Check.run (checks second) = .error (.format error) := by
  by_cases hlength : 64 ≤ second.length
  · cases hrun : Check.run (checks second) with
    | ok _ => exact .inl (run_checks_eq_ok_iff.mp hrun)
    | error fault =>
      obtain ⟨before, check, after, hsplit, -, hfails, rfl⟩ := Check.run_eq_error_iff.mp hrun
      have hmem : check ∈ checks second := by
        rw [hsplit]
        exact List.mem_append_right _ List.mem_cons_self
      rcases holds_or_isTruncation h (hfront hlength) hmem with hholds | htruncation
      · rw [hfails] at hholds
        cases hholds
      · exact .inr ⟨check.defect, htruncation, rfl⟩
  · exact .inr ⟨_, isTruncation_fits, run_checks_of_length_lt (by omega)⟩

end Layout

namespace Analysis

lemma ofReader_eq_ok_iff_acceptable {reader : Reader} (h : reader.Faithful) {path : String}
    {analysis : Analysis} :
    (ofReader reader path).1 = .ok analysis ↔
      Layout.Acceptable reader.content ∧ analysis = Layout.analysis reader.content path := by
  rw [ofReader_eq_run h, check_bind_eq_ok_iff, Layout.run_checks_eq_ok_iff]
  exact and_congr_right fun _ => eq_comm

lemma ofReader_of_take_eq {reader other : Reader} (h : reader.Faithful) (hother : other.Faithful)
    {path : String} {analysis : Analysis} (haccepted : (ofReader reader path).1 = .ok analysis)
    {k : Nat} (htake : reader.content.take k = other.content.take k)
    (hk : k ≤ other.content.length) (hreach : analysis.reach ≤ k) :
    (ofReader other path).1 = .ok analysis := by
  obtain ⟨hacceptable, rfl⟩ := (ofReader_eq_ok_iff_acceptable h).mp haccepted
  have hwithin := (Layout.reach_analysis_le_iff hacceptable.nameIndex).mp hreach
  refine (ofReader_eq_ok_iff_acceptable hother).mpr ⟨?_, ?_⟩
  · exact Layout.acceptable_of_within htake hwithin hacceptable hk
  · exact Layout.analysis_eq_of_take_eq htake hwithin hacceptable.nameIndex

lemma reach_le_length {reader : Reader} (h : reader.Faithful) {path : String}
    {analysis : Analysis} (haccepted : (ofReader reader path).1 = .ok analysis) :
    analysis.reach ≤ reader.content.length := by
  obtain ⟨hacceptable, rfl⟩ := (ofReader_eq_ok_iff_acceptable h).mp haccepted
  exact (Layout.reach_analysis_le_iff hacceptable.nameIndex).mpr hacceptable.within

/-- A file that was cut off too early cannot be accepted, since it would have the same analysis
and so would have to reach as far. -/
lemma ofReader_of_lt_reach {reader cut : Reader} (h : reader.Faithful) (hcut : cut.Faithful)
    {path : String} {analysis : Analysis} (haccepted : (ofReader reader path).1 = .ok analysis)
    {k : Nat} (hk : k ≤ reader.content.length) (hcontent : cut.content = reader.content.take k)
    (hreach : k < analysis.reach) :
    ∃ part offset expected actual,
      (ofReader cut path).1 = .error (.format (.truncated part offset expected actual)) := by
  have hlength : cut.content.length = k := by
    rw [hcontent, List.length_take]
    omega
  have htake : cut.content.take k = reader.content.take k := by
    rw [hcontent, List.take_take, Nat.min_self]
  have hfront : 64 ≤ cut.content.length →
      slice reader.content 0 64 = slice cut.content 0 64 := by
    intro hle
    exact slice_congr htake.symm (by omega)
  have hacceptable := ((ofReader_eq_ok_iff_acceptable h).mp haccepted).1
  rcases Layout.acceptable_or_isTruncation hacceptable hfront with
    hother | ⟨_, ⟨part, offset, expected, actual, rfl⟩, hrun⟩
  · -- The whole file continues the front, so that both have the same analysis and reach.
    have hfound : (ofReader cut path).1 = .ok (Layout.analysis cut.content path) :=
      (ofReader_eq_ok_iff_acceptable hcut).mpr ⟨hother, rfl⟩
    have hle := reach_le_length hcut hfound
    rw [hlength] at hle
    have hsame := ofReader_of_take_eq hcut h hfound htake hk hle
    rw [haccepted, Except.ok.injEq] at hsame
    rw [hsame] at hreach
    omega
  · refine ⟨part, offset, expected, actual, ?_⟩
    rw [ofReader_eq_run hcut, hrun, error_bind]

/-- An accepted file can be cut off down to its reach and not further, and whatever follows it
has no influence. -/
theorem ofReader_take_append {reader : Reader} (h : reader.Faithful) {path : String}
    {analysis : Analysis} (haccepted : (ofReader reader path).1 = .ok analysis) :
    (∀ k ≤ reader.content.length, ∀ cut : Reader, cut.Faithful →
      cut.content = reader.content.take k →
      ((∃ found, (ofReader cut path).1 = .ok found) ↔ analysis.reach ≤ k) ∧
      (analysis.reach ≤ k → (ofReader cut path).1 = .ok analysis) ∧
      (k < analysis.reach → ∃ part offset expected actual,
        (ofReader cut path).1 = .error (.format (.truncated part offset expected actual)))) ∧
    ∀ more : Bytes, ∀ longer : Reader, longer.Faithful →
      longer.content = reader.content ++ more → (ofReader longer path).1 = .ok analysis := by
  constructor
  · intro k hk cut hcut hcontent
    have hlong : analysis.reach ≤ k → (ofReader cut path).1 = .ok analysis := by
      have htake : reader.content.take k = cut.content.take k := by
        rw [hcontent, List.take_take, Nat.min_self]
      have hlength : k ≤ cut.content.length := by
        rw [hcontent, List.length_take]
        omega
      exact ofReader_of_take_eq h hcut haccepted htake hlength
    have hshort := ofReader_of_lt_reach h hcut haccepted hk hcontent
    refine ⟨⟨?_, fun hreach => ⟨analysis, hlong hreach⟩⟩, hlong, hshort⟩
    rintro ⟨found, hfound⟩
    refine Nat.le_of_not_lt fun hlt => ?_
    obtain ⟨part, offset, expected, actual, herror⟩ := hshort hlt
    rw [hfound] at herror
    cases herror
  · intro more longer hlonger hcontent
    have htake : reader.content.take reader.content.length =
        longer.content.take reader.content.length := by
      rw [hcontent, List.take_length, List.take_left]
    have hlength : reader.content.length ≤ longer.content.length := by
      rw [hcontent, List.length_append]
      exact Nat.le_add_right _ _
    exact ofReader_of_take_eq h hlonger haccepted htake hlength (reach_le_length h haccepted)

/-- Three bytes too many behind two sections, one more, and one too few. -/
theorem ofReader_twoSections_take :
    let content := Image.twoSections.bytes ++ [1, 2, 3]
    let analysis := Layout.analysis content "a"
    (Reader.honest content).Faithful ∧
      (ofReader (Reader.honest content) "a").1 = .ok analysis ∧
      analysis.reach = 201 ∧ content.length = 204 ∧
      (ofReader (Reader.honest (content.take 201)) "a").1 = .ok analysis ∧
      (ofReader (Reader.honest (content ++ [4])) "a").1 = .ok analysis ∧
      ∃ part offset expected actual, (ofReader (Reader.honest (content.take 200)) "a").1 =
        .error (.format (.truncated part offset expected actual)) := by
  intro content analysis
  have hfaithful : (Reader.honest content).Faithful := Reader.faithful_honest (by decide +kernel)
  have hacceptable : Layout.Acceptable content := by decide +kernel
  have haccepted : (ofReader (Reader.honest content) "a").1 = .ok analysis :=
    (ofReader_eq_ok_iff_acceptable hfaithful).mpr ⟨hacceptable, rfl⟩
  have hlength : content.length = 204 := by decide +kernel
  have hreach : analysis.reach = 201 := by decide +kernel
  obtain ⟨hcut, hmore⟩ := ofReader_take_append hfaithful haccepted
  have hlong := hcut 201 (Nat.le_of_lt (by decide +kernel)) (Reader.honest (content.take 201))
    (Reader.faithful_honest (by decide +kernel)) rfl
  have hshort := hcut 200 (Nat.le_of_lt (by decide +kernel)) (Reader.honest (content.take 200))
    (Reader.faithful_honest (by decide +kernel)) rfl
  have hlonger := hmore [4] (Reader.honest (content ++ [4]))
    (Reader.faithful_honest (by decide +kernel)) rfl
  exact ⟨hfaithful, haccepted, hreach, hlength, hlong.2.1 (Nat.le_of_eq hreach), hlonger,
    hshort.2.2 (by decide +kernel)⟩

end Analysis

end ElfInspect
