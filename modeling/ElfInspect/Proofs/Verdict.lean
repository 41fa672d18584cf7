import ElfInspect.Proofs.Checks

/-!
# Files that are served in full

Where the recorded length is that of the bytes, an analysis comes to the first failing check,
and to what stands in the file if there is none.
-/

namespace ElfInspect

lemma toUInt64_toNat (n : UInt64) : n.toNat.toUInt64 = n := by
  simp

/-- The range check of words is the range check of numbers. -/
lemma Extent.check_eq_run (extent : Extent) (part : Part) (length : UInt64) :
    extent.check part length =
      Check.run [.fits part extent.offset.toNat extent.size.toNat length.toNat] := by
  have havailable : (length.toNat - extent.offset.toNat).toUInt64 = extent.available length := by
    rw [← Extent.toNat_available, toUInt64_toNat]
  unfold check
  by_cases h : extent.fits length = true
  · rw [if_pos h, Check.run_cons_of_holds (decide_eq_true (Extent.fits_iff.mp h))]
    rfl
  · have hnot := decide_eq_false (mt Extent.fits_iff.mpr h)
    rw [if_neg h, Check.run_cons_of_not_holds hnot]
    simp only [Check.fits, havailable, toUInt64_toNat]

/-! ### The header -/

section Header

variable {content : Bytes}

lemma ident_slice {size : Nat} (h : 16 ≤ size) :
    Layout.ident (slice content 0 size) = Layout.ident content := by
  ext i hi
  simp only [Layout.ident, Vector.getElem_ofFn, slice, List.drop_zero,
    List.getD_eq_getElem?_getD]
  rw [List.getElem?_take_of_lt (by omega)]

lemma headerIn_slice (order : ByteOrder) :
    Layout.headerIn order (slice content 0 64) = Layout.headerIn order content := by
  have hident : Layout.ident (slice content 0 64) = Layout.ident content :=
    ident_slice (by omega)
  simp (disch := omega) only [Layout.headerIn, hident, numberAt_slice, Nat.zero_add]

lemma getElem_ident (i : Nat) (h : i < 16) : (Layout.ident content)[i] = content.getD i 0 := by
  rw [Layout.ident, Vector.getElem_ofFn]

lemma order_eq_of_ofCode?_eq_some {order : ByteOrder}
    (h : ByteOrder.ofCode? (content.getD 5 0) = some order) : Layout.order content = order := by
  rw [ByteOrder.ofCode?_eq_some_iff] at h
  unfold Layout.order
  rw [h]
  cases order <;> rfl

lemma isSome_ofCode?_iff {code : UInt8} :
    (ByteOrder.ofCode? code).isSome ↔ code = 1 ∨ code = 2 := by
  unfold ByteOrder.ofCode?
  by_cases hlittle : code = 1
  · simp [hlittle]
  · by_cases hbig : code = 2 <;> simp [hlittle, hbig]

lemma identify_ident (content : Bytes) :
    (FileHeader.identify (Layout.ident content)).mapError Fault.format =
      Check.run (Layout.identChecks content) >>= fun _ => .ok (Layout.order content) := by
  have hfound : #v[content.getD 0 0, content.getD 1 0, content.getD 2 0, content.getD 3 0] =
      Layout.magic content := rfl
  unfold FileHeader.identify Layout.identChecks
  simp only [getElem_ident, hfound]
  by_cases hmagic : Layout.magic content = FileHeader.elfMagic
  · have hholds : (Layout.magic content).toList = [0x7f, 0x45, 0x4c, 0x46] := by
      rw [hmagic]
      rfl
    rw [Check.run_cons_of_holds (decide_eq_true hholds), if_neg (not_not_intro hmagic)]
    by_cases hclass : content.getD 4 0 = FileHeader.class64
    · rw [Check.run_cons_of_holds (decide_eq_true hclass), if_neg (not_not_intro hclass)]
      cases horder : ByteOrder.ofCode? (content.getD 5 0) with
      | none =>
        have hcode : ¬(content.getD 5 0 = 1 ∨ content.getD 5 0 = 2) := by
          rw [← isSome_ofCode?_iff, horder]
          exact nofun
        rw [Check.run_cons_of_not_holds (decide_eq_false hcode)]
        rfl
      | some order =>
        have hcode : content.getD 5 0 = 1 ∨ content.getD 5 0 = 2 := by
          rw [← isSome_ofCode?_iff, horder]
          rfl
        rw [Check.run_cons_of_holds (decide_eq_true hcode), order_eq_of_ofCode?_eq_some horder]
        rfl
    · rw [Check.run_cons_of_not_holds (decide_eq_false hclass), if_pos hclass]
      rfl
  · have hholds : (Layout.magic content).toList ≠ [0x7f, 0x45, 0x4c, 0x46] := by
      intro hlist
      exact hmagic (Vector.toList_inj.mp hlist)
    rw [Check.run_cons_of_not_holds (decide_eq_false hholds), if_pos hmagic]
    rfl

lemma parse_eq_run (h : 64 ≤ content.length) :
    FileHeader.parse content =
      Check.run (Layout.identChecks content) >>= fun _ => .ok (Layout.header content) := by
  rw [parse_of_le_length h, identify_ident, bind_assoc]
  rfl

lemma parse_slice (h : 64 ≤ content.length) :
    FileHeader.parse (slice content 0 64) =
      Check.run (Layout.identChecks content) >>= fun _ => .ok (Layout.header content) := by
  have hlength : (slice content 0 64).length = 64 := length_slice (by omega)
  have hident : Layout.ident (slice content 0 64) = Layout.ident content :=
    ident_slice (by omega)
  rw [parse_of_le_length (by omega), hident, identify_ident, bind_assoc]
  simp only [ok_bind, headerIn_slice]
  rfl

lemma toNat_mul_toUInt64 (m n : UInt16) :
    (m.toUInt64 * n.toUInt64).toNat = m.toNat * n.toNat := by
  have hm := m.toNat_lt
  have hn := n.toNat_lt
  have hmul : m.toNat * n.toNat < 2 ^ 64 := by
    have := Nat.mul_lt_mul'' hm hn
    omega
  rw [UInt64.toNat_mul, UInt16.toNat_toUInt64, UInt16.toNat_toUInt64, Nat.mod_eq_of_lt hmul]

lemma run_exceptIf (check : Check) (exempt : Bool) :
    Check.run [check.exceptIf exempt] = if exempt then .ok () else Check.run [check] := by
  cases exempt <;> rfl

/-- The two range checks of a header in their order, each left out where its table is not
declared. -/
lemma FileHeader.checkTables_eq_run (header : FileHeader) (length : UInt64) :
    header.checkTables length = Check.run [
      (Check.fits .programHeaderTable header.phoff.toNat
        (header.phnum.toNat * header.phentsize.toNat) length.toNat).exceptIf (header.phnum = 0),
      (Check.fits .sectionHeaderTable header.shoff.toNat
        (header.shnum.toNat * header.shentsize.toNat) length.toNat).exceptIf
          (header.shoff = 0)] := by
  have hprogram : checkExtent .programHeaderTable header.programTable length =
      Check.run [.fits .programHeaderTable header.phoff.toNat
        (header.phnum.toNat * header.phentsize.toNat) length.toNat] := by
    rw [checkExtent_eq, Extent.check_eq_run, ← toNat_mul_toUInt64]
    rfl
  have hsection : checkExtent .sectionHeaderTable header.sectionTable length =
      Check.run [.fits .sectionHeaderTable header.shoff.toNat
        (header.shnum.toNat * header.shentsize.toNat) length.toNat] := by
    rw [checkExtent_eq, Extent.check_eq_run, ← toNat_mul_toUInt64]
    rfl
  unfold checkTables
  rw [← List.singleton_append, Check.run_append, run_exceptIf, run_exceptIf, hprogram, hsection]
  by_cases hphnum : header.phnum = 0
  · by_cases hshoff : header.shoff = 0
    · simp only [hphnum, hshoff, ne_eq, not_true_eq_false, decide_true, if_true, if_false]
      rfl
    · simp only [hphnum, hshoff, ne_eq, not_true_eq_false, not_false_eq_true, decide_true,
        decide_false, if_true, if_false, Bool.false_eq_true]
      rfl
  · by_cases hshoff : header.shoff = 0
    · simp only [hphnum, hshoff, ne_eq, not_true_eq_false, not_false_eq_true, decide_true,
        decide_false, if_true, if_false, Bool.false_eq_true]
      rfl
    · simp only [hphnum, hshoff, ne_eq, not_false_eq_true, decide_false, if_true, if_false,
        Bool.false_eq_true]

lemma checkTables_eq_run {length : UInt64} (hfull : length.toNat = content.length) :
    (Layout.header content).checkTables length = Check.run (Layout.extentChecks content) := by
  rw [FileHeader.checkTables_eq_run, hfull]
  rfl

end Header

/-! ### Reads -/

namespace File

variable {file : File}

lemma result_read_of_fits {part : Part} {extent : Extent}
    (hfull : file.length.toNat = file.content.length)
    (h : extent.offset.toNat + extent.size.toNat ≤ file.content.length) :
    (file.read part extent).result =
      .ok (slice file.content extent.offset.toNat extent.size.toNat) := by
  have hcheck : extent.check part file.length = .ok () := by
    rw [Extent.check_eq_ok_iff, hfull]
    exact h
  have hlength := length_slice h
  rw [File.read, hcheck, Account.result_bind]
  simp only [if_pos hlength]
  rfl

lemma result_read (hfull : file.length.toNat = file.content.length) (part : Part)
    (extent : Extent) :
    (file.read part extent).result =
      Check.run [.fits part extent.offset.toNat extent.size.toNat file.content.length] >>=
        fun _ => .ok (slice file.content extent.offset.toNat extent.size.toNat) := by
  by_cases h : extent.offset.toNat + extent.size.toNat ≤ file.content.length
  · rw [result_read_of_fits hfull h, Check.run_cons_of_holds (decide_eq_true h), Check.run_nil,
      ok_bind]
  · rw [File.read, Account.result_bind, Account.ofExcept, Extent.check_eq_run, hfull,
      Check.run_cons_of_not_holds (decide_eq_false h)]
    rfl

lemma result_header_eq (file : File) :
    file.header.result =
      (file.read .fileHeader ⟨0, FileHeader.byteSize.toUInt64⟩).result >>= fun bytes =>
      FileHeader.parse bytes >>= fun header =>
      header.checkTables file.length >>= fun _ => .ok header := by
  simp only [File.header, Account.result_bind]
  rfl

theorem result_header (hfull : file.length.toNat = file.content.length) :
    file.header.result =
      Check.run (Layout.headerChecks file.content) >>= fun _ =>
        .ok (Layout.header file.content) := by
  have hread : (file.read .fileHeader ⟨0, FileHeader.byteSize.toUInt64⟩).result =
      Check.run [.fits .fileHeader 0 64 file.content.length] >>= fun _ =>
        .ok (slice file.content 0 64) := result_read hfull _ _
  rw [result_header_eq, hread, Layout.headerChecks]
  by_cases hlength : 0 + 64 ≤ file.content.length
  · have hparse := @parse_slice file.content (by omega)
    have htables := checkTables_eq_run hfull
    rw [Check.run_cons_of_holds (decide_eq_true hlength),
      Check.run_cons_of_holds (decide_eq_true hlength), Check.run_nil, Check.run_append]
    simp only [ok_bind, hparse, bind_assoc, htables]
  · rw [Check.run_cons_of_not_holds (decide_eq_false hlength),
      Check.run_cons_of_not_holds (decide_eq_false hlength), error_bind, error_bind, error_bind]

end File

/-! ### The section header table -/

section Table

variable {content : Bytes}

lemma length_records : (Layout.records content).length = (Layout.header content).shnum.toNat := by
  rw [Layout.records, List.length_map, List.length_range]

lemma getElem?_records_of_lt {index : Nat} (h : index < (Layout.header content).shnum.toNat) :
    (Layout.records content)[index]? = some (Layout.record content index) := by
  rw [Layout.records, List.getElem?_map, List.getElem?_range h, Option.map_some]

lemma zipIdx_records : (Layout.records content).zipIdx =
    (List.range (Layout.header content).shnum.toNat).map fun i => (Layout.record content i, i) := by
  apply List.ext_getElem
  · rw [List.length_zipIdx, length_records, List.length_map, List.length_range]
  · intro i hleft hright
    simp only [Layout.records, List.getElem_zipIdx, List.getElem_map, List.getElem_range,
      Nat.zero_add]

lemma byteOrder?_header (h : Check.run (Layout.identChecks content) = .ok ()) :
    (Layout.header content).byteOrder? = some (Layout.order content) := by
  rw [Check.run_eq_ok_iff] at h
  have hencoding := h _ (List.mem_cons_of_mem _ (List.mem_cons_of_mem _ List.mem_cons_self))
  have hsome : (ByteOrder.ofCode? (content.getD 5 0)).isSome :=
    isSome_ofCode?_iff.mpr (of_decide_eq_true hencoding)
  obtain ⟨order, horder⟩ := Option.isSome_iff_exists.mp hsome
  rw [order_eq_of_ofCode?_eq_some horder, ← horder]
  exact congrArg ByteOrder.ofCode? (getElem_ident 5 (by omega))

lemma many_decode_slice
    (h : (Layout.header content).shoff.toNat + 64 * (Layout.header content).shnum.toNat ≤
      content.length) :
    (SectionHeader.decode (Layout.order content)).many (Layout.header content).shnum.toNat
      (slice content (Layout.header content).shoff.toNat
        (64 * (Layout.header content).shnum.toNat)) = .ok (Layout.records content, []) := by
  have hlength := length_slice h
  have hdecode := @many_decode_drop (Layout.order content)
    (slice content (Layout.header content).shoff.toNat (64 * (Layout.header content).shnum.toNat))
    0 (Layout.header content).shnum.toNat (by omega)
  have hrecords : ((List.range (Layout.header content).shnum.toNat).map fun i =>
      Layout.recordAt (Layout.order content)
        (slice content (Layout.header content).shoff.toNat
          (64 * (Layout.header content).shnum.toNat)) (0 + 64 * i)) = Layout.records content := by
    apply List.map_congr_left
    intro i hi
    have hlt := List.mem_range.mp hi
    rw [recordAt_slice (by omega), Nat.zero_add]
    rfl
  rw [List.drop_zero, hrecords, List.drop_eq_nil_of_le (by omega)] at hdecode
  exact hdecode

lemma run_identChecks (h : Check.run (Layout.headerChecks content) = .ok ()) :
    Check.run (Layout.identChecks content) = .ok () := by
  rw [Check.run_eq_ok_iff] at h ⊢
  intro check hcheck
  exact h check (List.mem_cons_of_mem _ (List.mem_append_left _ hcheck))

/-- The extent that the header states is that of the records. -/
lemma table_fits (h : Check.run (Layout.headerChecks content) = .ok ())
    (hsize : (Layout.header content).shentsize = SectionTable.entrySize)
    (hshoff : (Layout.header content).shoff ≠ 0) :
    (Layout.header content).shoff.toNat + 64 * (Layout.header content).shnum.toNat ≤
      content.length := by
  rw [Check.run_eq_ok_iff] at h
  have hextent := h _ (List.mem_cons_of_mem _ (List.mem_append_right _
    (List.mem_cons_of_mem _ List.mem_cons_self)))
  simp only [Check.exceptIf, Check.fits, Bool.or_eq_true, decide_eq_true_eq] at hextent
  have hfits := hextent.resolve_left hshoff
  have hentry : SectionTable.entrySize.toNat = 64 := rfl
  rw [hsize, hentry] at hfits
  omega

lemma SectionTable.admits_eq_false_iff {length : UInt64} {sh : SectionHeader} :
    SectionTable.admits length sh = false ↔
      sh.type ≠ 8 ∧ length.toNat < sh.offset.toNat + sh.size.toNat := by
  rw [SectionTable.admits, Bool.or_eq_false_iff]
  apply and_congr
  · exact decide_eq_false_iff_not
  · rw [SectionHeader.fits_eq, Bool.eq_false_iff, ne_eq, Extent.fits_iff, Nat.not_le]
    rfl

/-- The first section that does not fit is the first check that fails. -/
lemma check_entries_eq_run {length : UInt64} (hfull : length.toNat = content.length)
    (entries : List (SectionHeader × Nat)) :
    (match entries.find? fun entry => !SectionTable.admits length entry.1 with
      | some (sh, index) => sh.checkExtent index length
      | none => .ok ()) =
      Check.run (entries.map fun entry =>
        (Check.fits (.sectionAt entry.2) entry.1.offset.toNat entry.1.size.toNat
          content.length).exceptIf entry.1.isNobits) := by
  induction entries with
  | nil => rfl
  | cons entry entries ih =>
    obtain ⟨sh, index⟩ := entry
    have hcheck : sh.checkExtent index length =
        Check.run [.fits (.sectionAt index) sh.offset.toNat sh.size.toNat content.length] := by
      rw [SectionHeader.checkExtent_eq, Extent.check_eq_run, hfull]
      rfl
    have hfits : sh.fits length =
        (Check.fits (.sectionAt index) sh.offset.toNat sh.size.toNat content.length).holds := by
      rw [SectionHeader.fits_eq, Bool.eq_iff_iff, Extent.fits_iff, hfull]
      exact decide_eq_true_iff.symm
    have hadmits : SectionTable.admits length sh = (sh.isNobits ||
        (Check.fits (.sectionAt index) sh.offset.toNat sh.size.toNat content.length).holds) := by
      rw [SectionTable.admits, hfits]
    cases hcase : SectionTable.admits length sh with
    | true =>
      rw [List.find?_cons_of_neg (by rw [hcase]; exact nofun), List.map_cons,
        Check.run_cons_of_holds (hadmits.symm.trans hcase), ih]
    | false =>
      have hbad : (Check.fits (.sectionAt index) sh.offset.toNat sh.size.toNat
          content.length).holds = false := by
        rw [hadmits, Bool.or_eq_false_iff] at hcase
        exact hcase.2
      rw [List.find?_cons_of_pos (by rw [hcase]; rfl), List.map_cons,
        Check.run_cons_of_not_holds (hadmits.symm.trans hcase)]
      exact hcheck.trans (Check.run_cons_of_not_holds hbad [])

lemma check_records_eq_run {length : UInt64} (hfull : length.toNat = content.length) :
    SectionTable.check length (Layout.records content) =
      Check.run (Layout.recordChecks content) := by
  have hentries := check_entries_eq_run hfull (Layout.records content).zipIdx
  have hchecks : (Layout.records content).zipIdx.map (fun entry =>
      (Check.fits (.sectionAt entry.2) entry.1.offset.toNat entry.1.size.toNat
        content.length).exceptIf entry.1.isNobits) = Layout.recordChecks content := by
    rw [zipIdx_records, List.map_map]
    rfl
  rw [hchecks] at hentries
  exact hentries

end Table

namespace File

variable {file : File}

lemma extent_size (header : FileHeader) :
    (SectionTable.extent header).size.toNat = 64 * header.shnum.toNat := by
  rw [SectionTable.extent, toNat_mul_toUInt64, Nat.mul_comm]
  rfl

lemma extent_offset (header : FileHeader) : (SectionTable.extent header).offset = header.shoff :=
  rfl

lemma result_records_eq (file : File) (header : FileHeader) (order : ByteOrder) :
    (file.records header order).result =
      (file.read .sectionHeaderTable (SectionTable.extent header)).result >>= fun bytes =>
      ((SectionHeader.decode order).many header.shnum.toNat bytes).mapError Fault.io >>=
        fun decoded =>
      SectionTable.check file.length decoded.1 >>= fun _ => .ok decoded.1 := by
  simp only [File.records, Account.result_bind]
  rfl

lemma result_records (hfull : file.length.toNat = file.content.length) :
    (file.records (Layout.header file.content) (Layout.order file.content)).result =
      Check.run [.fits .sectionHeaderTable (Layout.header file.content).shoff.toNat
        (64 * (Layout.header file.content).shnum.toNat) file.content.length] >>= fun _ =>
      Check.run (Layout.recordChecks file.content) >>= fun _ =>
        .ok (Layout.records file.content) := by
  have hread := result_read hfull .sectionHeaderTable
    (SectionTable.extent (Layout.header file.content))
  rw [extent_size, extent_offset] at hread
  have hcheck := check_records_eq_run hfull
  rw [result_records_eq, hread, bind_assoc]
  by_cases h : (Layout.header file.content).shoff.toNat +
      64 * (Layout.header file.content).shnum.toNat ≤ file.content.length
  · have hdecode := many_decode_slice h
    rw [Check.run_cons_of_holds (decide_eq_true h), Check.run_nil]
    simp only [ok_bind, hdecode, mapError_ok, hcheck]
  · rw [Check.run_cons_of_not_holds (decide_eq_false h), error_bind, error_bind]

/-- On a file whose header passed, what is read of a table that is there. -/
theorem result_sections (hfull : file.length.toNat = file.content.length)
    (hheader : Check.run (Layout.headerChecks file.content) = .ok ())
    (hnum : (Layout.header file.content).shnum ≠ 0) :
    (file.sections (Layout.header file.content)).result =
      Check.run (Layout.tableChecks file.content ++ Layout.recordChecks file.content) >>=
        fun _ => .ok (Layout.records file.content) := by
  rw [File.sections, if_neg hnum, Layout.tableChecks, List.cons_append,
    Check.run_cons_of_holds (decide_eq_true hnum)]
  by_cases hsize : (Layout.header file.content).shentsize = SectionTable.entrySize
  · rw [if_neg (not_not_intro hsize), List.cons_append,
      Check.run_cons_of_holds (decide_eq_true hsize), Check.run_append, bind_assoc,
      byteOrder?_header (run_identChecks hheader)]
    change (file.records _ _).result = _
    rw [result_records hfull, run_exceptIf]
    -- A table with an offset was checked with the header; one without is checked here only.
    by_cases hshoff : (Layout.header file.content).shoff = 0
    · simp only [hshoff, ne_eq, not_true_eq_false, decide_false, if_false, Bool.false_eq_true]
      rfl
    · have hfits := table_fits hheader hsize hshoff
      simp only [hshoff, ne_eq, not_false_eq_true, decide_true, if_true]
      rw [Check.run_cons_of_holds (decide_eq_true hfits), Check.run_nil]
  · rw [if_pos hsize, List.cons_append, Check.run_cons_of_not_holds (decide_eq_false hsize)]
    rfl

theorem result_names (hfull : file.length.toNat = file.content.length) :
    (file.names (Layout.header file.content) (Layout.records file.content)).result =
      Check.run (Layout.nameChecks file.content) >>= fun _ =>
        .ok (Layout.nameTable file.content) := by
  unfold File.names Layout.nameChecks
  by_cases h : (Layout.header file.content).shstrndx.toNat <
      (Layout.header file.content).shnum.toNat
  · have hread := result_read hfull .nameTable (Layout.nameRecord file.content).extent
    rw [getElem?_records_of_lt h, Check.run_cons_of_holds (decide_eq_true h)]
    change (file.read .nameTable (Layout.nameRecord file.content).extent >>= _).result = _
    rw [Account.result_bind, hread, bind_assoc]
    rfl
  · have hnone : (Layout.records file.content)[(Layout.header file.content).shstrndx.toNat]? =
        none := by
      rw [List.getElem?_eq_none_iff, length_records]
      omega
    rw [hnone, length_records, Check.run_cons_of_not_holds (decide_eq_false h)]
    rfl

lemma result_analysis_eq (file : File) (path : String) :
    (file.analysis path).result =
      file.header.result >>= fun header =>
      (file.sections header).result >>= fun sectionHeaders =>
      (file.names header sectionHeaders).result >>= fun names =>
        .ok { path, header, sectionHeaders,
              sections := SectionSummary.ofHeaders names sectionHeaders } := by
  simp only [File.analysis, Account.result_bind]
  rfl

lemma result_sections_of_shnum_eq_zero {header : FileHeader} (hnum : header.shnum = 0) :
    (file.sections header).result = .ok [] := by
  rw [File.sections_of_shnum_eq_zero hnum]
  rfl

/-- With no records the name table is missing, whatever else the header states. -/
lemma result_names_nil (header : FileHeader) :
    (file.names header []).result =
      .error (.format (.badReference .nameTable header.shstrndx.toNat 0)) :=
  rfl

/-- An analysis comes to the first failing check, or to what stands in the file. -/
theorem result_analysis (hfull : file.length.toNat = file.content.length) (path : String) :
    (file.analysis path).result =
      Check.run (Layout.checks file.content) >>= fun _ =>
        .ok (Layout.analysis file.content path) := by
  rw [result_analysis_eq, result_header hfull, Layout.checks, List.append_assoc,
    List.append_assoc, Check.run_append]
  cases hheader : Check.run (Layout.headerChecks file.content) with
  | error fault => rfl
  | ok _ =>
    simp only [ok_bind]
    by_cases hnum : (Layout.header file.content).shnum = 0
    · rw [result_sections_of_shnum_eq_zero hnum, ok_bind, result_names_nil, error_bind,
        Layout.tableChecks, List.cons_append,
        Check.run_cons_of_not_holds (decide_eq_false (not_not_intro hnum)), error_bind]
    · rw [result_sections hfull hheader hnum]
      simp only [Check.run_append, bind_assoc, ok_bind, result_names hfull]
      rfl

end File

end ElfInspect
