import ElfInspect.Proofs.Canonical

/-!
# What is read of a section header table

Reading the table makes sense for any header, also for one that no file begins with. On a source
that serves its bytes in full the outcome is described here by rules: the conditions are on the
header and on the bytes, in natural numbers, and the records are those whose forms make up the
bytes of the table. Only a section with contents in the file can stand in the way, and of several
the first one does.
-/

namespace ElfInspect

/-- The contents of the section lie in a file of this length, if it has any there. -/
def SectionHeader.Contained (sh : SectionHeader) (length : Nat) : Prop :=
  sh.type ≠ 8 → sh.offset.toNat + sh.size.toNat ≤ length

namespace SectionTable

/-- The records stand one after another where the header places its table. -/
structure Stands (content : Bytes) (header : FileHeader) (order : ByteOrder)
    (records : List SectionHeader) : Prop where
  someSection : header.shnum ≠ 0
  entrySize : header.shentsize = 64
  encoding : header.encoding = order.code
  within : header.shoff.toNat + 64 * header.shnum.toNat ≤ content.length
  count : records.length = header.shnum.toNat
  bytes : records.flatMap (SectionHeader.encode order) =
    slice content header.shoff.toNat (64 * header.shnum.toNat)

/-- What the table of a header comes to in a file with these bytes. -/
inductive Verdict (content : Bytes) (header : FileHeader) :
    Except Fault (List SectionHeader) → Prop where
  | empty (hnum : header.shnum = 0) : Verdict content header (.ok [])
  | badEntrySize (hnum : header.shnum ≠ 0) (hsize : header.shentsize ≠ 64) :
      Verdict content header (.error (.format (.badEntrySize 64 header.shentsize)))
  | unsupportedEncoding (hnum : header.shnum ≠ 0) (hsize : header.shentsize = 64)
      (hlittle : header.encoding ≠ 1) (hbig : header.encoding ≠ 2) :
      Verdict content header (.error (.format (.unsupportedEncoding header.encoding)))
  | truncated {order : ByteOrder} (hnum : header.shnum ≠ 0) (hsize : header.shentsize = 64)
      (hencoding : header.encoding = order.code)
      (hlong : content.length < header.shoff.toNat + 64 * header.shnum.toNat) :
      Verdict content header (.error (.format (.truncated .sectionHeaderTable header.shoff
        (64 * header.shnum.toNat).toUInt64 (content.length - header.shoff.toNat).toUInt64)))
  | accepted {order : ByteOrder} {records : List SectionHeader}
      (hstands : Stands content header order records)
      (hall : ∀ record ∈ records, record.Contained content.length) :
      Verdict content header (.ok records)
  | misplaced {order : ByteOrder} {records : List SectionHeader} {index : Nat}
      {record : SectionHeader} (hstands : Stands content header order records)
      (hrecord : records[index]? = some record)
      (hbefore : ∀ earlier ∈ records.take index, earlier.Contained content.length)
      (htype : record.type ≠ 8)
      (hlong : content.length < record.offset.toNat + record.size.toNat) :
      Verdict content header (.error (.format (.truncated (.sectionAt index) record.offset
        record.size (content.length - record.offset.toNat).toUInt64)))

/-! ### The check of the records -/

section Check

variable {length : UInt64} {records : List SectionHeader} {record : SectionHeader} {index : Nat}

lemma admits_iff : admits length record = true ↔ record.Contained length.toNat := by
  rw [← Bool.not_eq_false, admits_eq_false_iff, SectionHeader.Contained, not_and, Nat.not_lt]

lemma find?_misplaced_eq_none_iff :
    (records.zipIdx.find? fun entry => !admits length entry.1) = none ↔
      ∀ record ∈ records, record.Contained length.toNat := by
  rw [List.find?_eq_none]
  constructor
  · intro h record hrecord
    obtain ⟨index, hindex⟩ := List.mem_iff_getElem?.mp hrecord
    have hnot := h (record, index) (List.mem_zipIdx_iff_getElem?.mpr hindex)
    rw [Bool.not_eq_true', Bool.not_eq_false] at hnot
    exact admits_iff.mp hnot
  · rintro h ⟨record, index⟩ hentry
    have hrecord := List.mem_of_getElem? (List.mem_zipIdx_iff_getElem?.mp hentry)
    rw [Bool.not_eq_true', Bool.not_eq_false]
    exact admits_iff.mpr (h record hrecord)

lemma find?_misplaced_eq_some_iff :
    (records.zipIdx.find? fun entry => !admits length entry.1) = some (record, index) ↔
      records[index]? = some record ∧
      (∀ earlier ∈ records.take index, earlier.Contained length.toNat) ∧
      record.type ≠ 8 ∧ length.toNat < record.offset.toNat + record.size.toNat := by
  rw [List.find?_eq_some_iff_getElem, Bool.not_eq_true', admits_eq_false_iff]
  constructor
  · rintro ⟨hmisplaced, i, hi, hentry, hbefore⟩
    rw [List.length_zipIdx] at hi
    rw [List.getElem_zipIdx, Nat.zero_add, Prod.mk.injEq] at hentry
    obtain ⟨rfl, rfl⟩ := hentry
    refine ⟨List.getElem?_eq_getElem hi, ?_, hmisplaced⟩
    intro earlier hearlier
    obtain ⟨j, hj, rfl⟩ := List.mem_iff_getElem.mp hearlier
    rw [List.length_take] at hj
    have hadmits := hbefore j (by omega)
    rw [Bool.not_not, List.getElem_zipIdx] at hadmits
    rw [List.getElem_take]
    exact admits_iff.mp hadmits
  · rintro ⟨hrecord, hbefore, hmisplaced⟩
    obtain ⟨hindex, rfl⟩ := List.getElem?_eq_some_iff.mp hrecord
    refine ⟨hmisplaced, index, by rwa [List.length_zipIdx], ?_, ?_⟩
    · rw [List.getElem_zipIdx, Nat.zero_add]
    · intro j hj
      have hmem : records[j] ∈ records.take index :=
        List.mem_take_iff_getElem.mpr ⟨j, by omega, rfl⟩
      rw [Bool.not_not, List.getElem_zipIdx]
      exact admits_iff.mpr (hbefore _ hmem)

lemma check_of_contained (h : ∀ record ∈ records, record.Contained length.toNat) :
    check length records = .ok () := by
  rw [check, find?_misplaced_eq_none_iff.mpr h]

lemma check_of_misplaced (hrecord : records[index]? = some record)
    (hbefore : ∀ earlier ∈ records.take index, earlier.Contained length.toNat)
    (htype : record.type ≠ 8) (hlong : length.toNat < record.offset.toNat + record.size.toNat) :
    check length records = .error (.format (.truncated (.sectionAt index) record.offset
      record.size (length.toNat - record.offset.toNat).toUInt64)) := by
  have hnot : ¬record.offset.toNat + record.size.toNat ≤ length.toNat := Nat.not_le.mpr hlong
  have hextent : record.checkExtent index length = .error (.format
      (.truncated (.sectionAt index) record.offset.toNat.toUInt64 record.size.toNat.toUInt64
        (length.toNat - record.offset.toNat).toUInt64)) := by
    rw [SectionHeader.checkExtent_eq, Extent.check_eq_run]
    exact Check.run_cons_of_not_holds (decide_eq_false hnot) []
  rw [toUInt64_toNat, toUInt64_toNat] at hextent
  rw [check, find?_misplaced_eq_some_iff.mpr ⟨hrecord, hbefore, htype, hlong⟩]
  exact hextent

end Check

/-! ### The rules -/

section Rules

variable {file : File} (hfull : file.length.toNat = file.content.length) {header : FileHeader}

include hfull

lemma result_records_of_stands {order : ByteOrder} {records : List SectionHeader}
    (h : Stands file.content header order records) :
    (file.sections header).result = check file.length records >>= fun _ => .ok records := by
  have horder : header.byteOrder? = some order := ByteOrder.ofCode?_eq_some_iff.mpr h.encoding
  have hread : (file.read .sectionHeaderTable (extent header)).result =
      .ok (records.flatMap (SectionHeader.encode order)) := by
    have hwithin := h.within
    rw [← File.extent_size, ← File.extent_offset] at hwithin
    rw [File.result_read_of_fits hfull hwithin, File.extent_size, File.extent_offset, h.bytes]
  have hmany := Decoder.many_flatMap_append (SectionHeader.decode_encode_append order) records []
  rw [List.append_nil, h.count] at hmany
  rw [File.sections_of_byteOrder?_eq_some h.someSection h.entrySize horder, File.result_records_eq,
    hread, ok_bind, hmany, mapError_ok, ok_bind]

lemma Verdict.result_eq {result : Except Fault (List SectionHeader)}
    (h : Verdict file.content header result) : (file.sections header).result = result := by
  cases h with
  | empty hnum => exact File.result_sections_of_shnum_eq_zero hnum
  | badEntrySize hnum hsize =>
    rw [File.sections_of_shentsize_ne hnum hsize]
    rfl
  | unsupportedEncoding hnum hsize hlittle hbig =>
    have hnone : header.byteOrder? = none := by
      rw [← Option.not_isSome_iff_eq_none]
      exact mt isSome_ofCode?_iff.mp (not_or.mpr ⟨hlittle, hbig⟩)
    rw [File.sections_of_byteOrder?_eq_none hnum hsize hnone, Account.ofExcept]
  | @truncated order hnum hsize hencoding hlong =>
    have horder : header.byteOrder? = some order := ByteOrder.ofCode?_eq_some_iff.mpr hencoding
    have hread := File.result_read hfull .sectionHeaderTable (extent header)
    rw [File.extent_size, File.extent_offset,
      Check.run_cons_of_not_holds (decide_eq_false (Nat.not_le.mpr hlong)), error_bind] at hread
    rw [File.sections_of_byteOrder?_eq_some hnum hsize horder, File.result_records_eq, hread,
      error_bind, Check.fits, toUInt64_toNat]
  | accepted hstands hall =>
    rw [← hfull] at hall
    rw [result_records_of_stands hfull hstands, check_of_contained hall, ok_bind]
  | misplaced hstands hrecord hbefore htype hlong =>
    rw [← hfull] at hbefore hlong
    rw [result_records_of_stands hfull hstands, check_of_misplaced hrecord hbefore htype hlong,
      error_bind, hfull]

omit hfull in
/-- Wherever there is room for a table, there are records that stand in it. -/
lemma exists_stands {content : Bytes} {order : ByteOrder} (hnum : header.shnum ≠ 0)
    (hsize : header.shentsize = 64) (hencoding : header.encoding = order.code)
    (hwithin : header.shoff.toNat + 64 * header.shnum.toNat ≤ content.length) :
    ∃ records, Stands content header order records :=
  ⟨(List.range header.shnum.toNat).map fun i =>
      Layout.recordAt order content (header.shoff.toNat + 64 * i),
    { someSection := hnum
      entrySize := hsize
      encoding := hencoding
      within := hwithin
      count := by rw [List.length_map, List.length_range]
      bytes := flatMap_encode_recordAt _ hwithin }⟩

lemma exists_verdict_of_stands {order : ByteOrder} {records : List SectionHeader}
    (h : Stands file.content header order records) :
    ∃ result, Verdict file.content header result := by
  cases hfind : records.zipIdx.find? fun entry => !admits file.length entry.1 with
  | none =>
    rw [find?_misplaced_eq_none_iff, hfull] at hfind
    exact ⟨_, .accepted h hfind⟩
  | some entry =>
    obtain ⟨record, index⟩ := entry
    rw [find?_misplaced_eq_some_iff, hfull] at hfind
    obtain ⟨hrecord, hbefore, htype, hlong⟩ := hfind
    exact ⟨_, .misplaced h hrecord hbefore htype hlong⟩

lemma exists_verdict (header : FileHeader) : ∃ result, Verdict file.content header result := by
  by_cases hnum : header.shnum = 0
  · exact ⟨_, .empty hnum⟩
  by_cases hsize : header.shentsize = 64
  · cases horder : header.byteOrder? with
    | none =>
      have hcode : ¬(header.encoding = 1 ∨ header.encoding = 2) := by
        rw [← isSome_ofCode?_iff, ← FileHeader.byteOrder?, horder]
        exact nofun
      obtain ⟨hlittle, hbig⟩ := not_or.mp hcode
      exact ⟨_, .unsupportedEncoding hnum hsize hlittle hbig⟩
    | some order =>
      have hencoding := ByteOrder.ofCode?_eq_some_iff.mp horder
      by_cases hwithin : header.shoff.toNat + 64 * header.shnum.toNat ≤ file.content.length
      · obtain ⟨records, hstands⟩ := exists_stands hnum hsize hencoding hwithin
        exact exists_verdict_of_stands hfull hstands
      · exact ⟨_, .truncated hnum hsize hencoding (Nat.not_le.mp hwithin)⟩
  · exact ⟨_, .badEntrySize hnum hsize⟩

end Rules

/-- On a source that serves its bytes in full, wherever its cursor stands, reading the table of
any header comes to what the rules say. -/
theorem read_eq_iff_verdict {source : Source} {content : Bytes} {length : UInt64}
    (hserves : source.Serves ⟨content, length⟩) (hfull : length.toNat = content.length)
    (header : FileHeader) (result : Except Fault (List SectionHeader)) :
    (read header source).result = result ↔ Verdict content header result := by
  rw [(Inspection.yields_readSections header).result_eq hserves]
  constructor
  · rintro rfl
    obtain ⟨result, hresult⟩ := @exists_verdict ⟨content, length⟩ hfull header
    rw [hresult.result_eq hfull]
    exact hresult
  · exact @Verdict.result_eq ⟨content, length⟩ hfull header result

/-- With a header that no file can have, the first record is no obstacle however far its contents
would lie, and the second one is a byte too long. -/
theorem read_secondMisplaced :
    let header : FileHeader := { Analysis.selfDescribing 2 with ident := Vector.replicate 16 2 }
    let first : SectionHeader :=
      { name := 0, type := 8, flags := 3, addr := 0, offset := 0xffffffffffffffff, size := 2,
        link := 0, info := 0, addralign := 1, entsize := 0 }
    let second : SectionHeader :=
      { name := 1, type := 1, flags := 2, addr := 0, offset := 100, size := 29, link := 0,
        info := 0, addralign := 1, entsize := 0 }
    let content := [first, second].flatMap (SectionHeader.encode .big)
    (Source.ofBytes content).Serves ⟨content, 128⟩ ∧ UInt64.toNat 128 = content.length ∧
      (read header (Source.ofBytes content)).result =
        .error (.format (.truncated (.sectionAt 1) 100 29 28)) := by
  intro header first second content
  have hlength : content.length = 128 := Layout.length_flatMap_encode [first, second]
  have hserves : (Source.ofBytes content).Serves ⟨content, 128⟩ :=
    ⟨rfl, rfl, rfl, congrArg Nat.toUInt64 hlength⟩
  have hstands : Stands content header .big [first, second] := {
    someSection := by decide
    entrySize := rfl
    encoding := rfl
    within := Nat.le_of_eq hlength.symm
    count := rfl
    bytes := (List.take_of_length_le (Nat.le_of_eq hlength)).symm }
  have hbefore : ∀ earlier ∈ [first, second].take 1, earlier.Contained content.length :=
    List.forall_mem_singleton.mpr fun htype => (htype rfl).elim
  have hlong : content.length < second.offset.toNat + second.size.toNat := by
    rw [hlength]
    decide
  refine ⟨hserves, hlength.symm, (read_eq_iff_verdict hserves hlength.symm header _).mpr ?_⟩
  have hverdict := @Verdict.misplaced content header .big [first, second] 1 second hstands rfl
    hbefore (by decide) hlong
  rw [hlength] at hverdict
  exact hverdict

end SectionTable

end ElfInspect
