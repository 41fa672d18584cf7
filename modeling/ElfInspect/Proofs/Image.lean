import ElfInspect.Proofs.Acceptance
import ElfInspect.Proofs.NameRuns

/-!
# Files that are written

An analysis of a file that was written from a draft gives back what was drafted, in either byte
order: the positions in the records are running sums of lengths, and each name is found at its own
position in the name table.
-/

namespace ElfInspect

namespace Image

variable (image : Image)

/-! ### Numbers within their fields -/

lemma getElem?_records (index : Nat) :
    image.records[index]? = image.sections[index]?.map (image.record index) := by
  rw [ImageDraft.records, List.getElem?_map, List.getElem?_zipIdx, Option.map_map, Nat.zero_add]
  rfl

lemma getElem?_rows (index : Nat) :
    image.rows[index]? = image.sections[index]?.map (image.row index) := by
  rw [ImageDraft.rows, List.getElem?_map, List.getElem?_zipIdx, Option.map_map, Nat.zero_add]
  rfl

lemma toNat_shoff : image.header.shoff.toNat = 64 + image.payload.length := by
  have hlength := image.length_bytes
  have hlt := image.bytes_lt
  exact Nat.mod_eq_of_lt (Nat.lt_of_le_of_lt (by omega) hlt)

lemma toNat_shnum : image.header.shnum.toNat = image.sections.length := by
  have hle := image.count_le
  exact Nat.mod_eq_of_lt (by omega)

lemma nameIndex_lt : image.nameIndex < image.sections.length := by
  have htable := image.nameTable
  obtain ⟨draft, hdraft, -⟩ := Option.map_eq_some_iff.mp htable
  exact (List.getElem?_eq_some_iff.mp hdraft).1

lemma toNat_shstrndx : image.header.shstrndx.toNat = image.nameIndex := by
  have hlt := image.nameIndex_lt
  have hle := image.count_le
  exact Nat.mod_eq_of_lt (by omega)

section Record

variable {image} {index : Nat} {draft : SectionDraft}

lemma payloadStart_add_le (h : image.sections[index]? = some draft) :
    image.payloadStart index + draft.payload.length ≤ 64 + image.payload.length := by
  have hle := length_take_flatMap_le SectionDraft.payload h
  rw [ImageDraft.payloadStart, ImageDraft.payload]
  omega

lemma toNat_offset (h : image.sections[index]? = some draft) :
    (image.record index draft).offset.toNat = image.payloadStart index := by
  have hle := payloadStart_add_le h
  have hlength := image.length_bytes
  have hlt := image.bytes_lt
  exact Nat.mod_eq_of_lt (Nat.lt_of_le_of_lt (by omega) hlt)

lemma toNat_size (h : image.sections[index]? = some draft) :
    (image.record index draft).size.toNat = draft.payload.length := by
  have hle := payloadStart_add_le h
  have hlength := image.length_bytes
  have hlt := image.bytes_lt
  exact Nat.mod_eq_of_lt (Nat.lt_of_le_of_lt (by omega) hlt)

lemma toNat_name (h : image.sections[index]? = some draft) :
    (image.record index draft).name.toNat = image.nameStart index := by
  have hle := length_take_flatMap_le SectionDraft.nameEntry h
  have hlt := image.nameBytes_lt
  have hlength : image.nameBytes.length =
      (image.sections.flatMap SectionDraft.nameEntry).length + 1 := List.length_cons
  have hstart : image.nameStart index =
      1 + ((image.sections.take index).flatMap SectionDraft.nameEntry).length := rfl
  have hentry : 1 ≤ draft.nameEntry.length := by
    rw [SectionDraft.nameEntry, List.length_append]
    exact Nat.le_add_left _ _
  exact Nat.mod_eq_of_lt (Nat.lt_of_le_of_lt (by omega) hlt)

end Record

/-! ### The file by position -/

lemma bytes_eq : image.bytes = image.header.encode image.order ++
    (image.payload ++ image.records.flatMap (SectionHeader.encode image.order)) := by
  rw [ImageDraft.bytes, Layout.assemble, List.append_assoc]

lemma getD_bytes {i : Nat} (h : i < 16) : image.bytes.getD i 0 = image.header.ident[i] := by
  rw [← getElem_ident i h, bytes_eq]
  simp only [Layout.ident_encode_append]

lemma getElem_headerIdent {i : Nat} (h : i < 6) :
    image.header.ident[i] =
      (#v[0x7f, 0x45, 0x4c, 0x46, 2, image.order.code] : Vector UInt8 6)[i] :=
  Vector.getElem_append_left h

lemma order_bytes : Layout.order image.bytes = image.order := by
  apply order_eq_of_ofCode?_eq_some
  rw [getD_bytes image (by omega), getElem_headerIdent image (by omega)]
  exact ByteOrder.ofCode?_code image.order

theorem header_bytes : Layout.header image.bytes = image.header := by
  rw [Layout.header, order_bytes, bytes_eq, Layout.headerIn_encode_append]

theorem records_bytes : Layout.records image.bytes = image.records := by
  have hfront : (image.header.encode image.order ++ image.payload).length =
      image.header.shoff.toNat := by
    rw [List.length_append, FileHeader.length_encode, toNat_shoff, FileHeader.byteSize]
  have hread := @Layout.recordAt_append_flatMap image.order
    (image.header.encode image.order ++ image.payload) image.records
  rw [hfront, ImageDraft.length_records, ← toNat_shnum] at hread
  rw [Layout.records, header_bytes]
  refine Eq.trans ?_ hread
  apply List.map_congr_left
  intro i hi
  rw [Layout.record, order_bytes, header_bytes]
  rfl

lemma record_bytes {index : Nat} {draft : SectionDraft}
    (h : image.sections[index]? = some draft) :
    Layout.record image.bytes index = image.record index draft := by
  have hlt := (List.getElem?_eq_some_iff.mp h).1
  have hread := @getElem?_records_of_lt image.bytes index
    (by rw [header_bytes, toNat_shnum]; exact hlt)
  rw [records_bytes, getElem?_records, h] at hread
  exact (Option.some_inj.mp hread).symm

/-- The contents of a section stand where its record says. -/
theorem slice_payload {index : Nat} {draft : SectionDraft}
    (h : image.sections[index]? = some draft) :
    slice image.bytes (image.payloadStart index) draft.payload.length = draft.payload := by
  have hle := length_take_flatMap_le SectionDraft.payload h
  have hdrop := drop_flatMap_of_getElem? SectionDraft.payload h
  have hfront := FileHeader.length_encode image.order image.header
  rw [bytes_eq, ImageDraft.payloadStart, ← FileHeader.byteSize, ← hfront, slice_append_right,
    ImageDraft.payload, slice_append_left hle, slice, hdrop, List.take_left]

/-! ### Names -/

lemma nameTable_bytes : Layout.nameTable image.bytes = ⟨image.nameBytes⟩ := by
  have htable := image.nameTable
  obtain ⟨draft, hdraft, hpayload⟩ := Option.map_eq_some_iff.mp htable
  have hrecord : Layout.nameRecord image.bytes = image.record image.nameIndex draft := by
    rw [Layout.nameRecord, header_bytes, toNat_shstrndx, record_bytes image hdraft]
  rw [Layout.nameTable, hrecord, toNat_offset hdraft, toNat_size hdraft,
    slice_payload image hdraft, hpayload]

theorem run_nameBytes {index : Nat} {draft : SectionDraft}
    (h : image.sections[index]? = some draft) :
    NameTable.run ⟨image.nameBytes⟩ (image.nameStart index) = Utf8.encode draft.name := by
  have hdrop := drop_flatMap_of_getElem? SectionDraft.nameEntry h
  have hzero : 0 ∉ Utf8.encode draft.name :=
    Utf8.zero_not_mem_encode (image.names draft (List.mem_of_getElem? h))
  have hstart : image.nameBytes.drop (image.nameStart index) =
      draft.nameEntry ++ (image.sections.drop (index + 1)).flatMap SectionDraft.nameEntry := by
    rw [ImageDraft.nameBytes, ImageDraft.nameStart, Nat.add_comm, List.drop_succ_cons, hdrop]
  rw [NameTable.run, hstart, SectionDraft.nameEntry, List.append_assoc]
  exact NameTable.takeWhile_run_append hzero (by simp)

lemma resolve_name {index : Nat} {draft : SectionDraft}
    (h : image.sections[index]? = some draft) :
    NameTable.resolve ⟨image.nameBytes⟩ (image.record index draft).name = draft.name := by
  rw [NameTable.resolve, toNat_name h, run_nameBytes image h, Utf8.decode_encode]

theorem ofHeaders_records :
    SectionSummary.ofHeaders ⟨image.nameBytes⟩ image.records = image.rows := by
  have hrow : ∀ index draft, image.sections[index]? = some draft →
      SectionSummary.ofHeader ⟨image.nameBytes⟩ index (image.record index draft) =
        image.row index draft := by
    intro index draft h
    rw [SectionSummary.ofHeader, resolve_name image h]
    rfl
  apply List.ext_getElem?
  intro index
  rw [SectionSummary.getElem?_ofHeaders, getElem?_records, getElem?_rows, Option.map_map]
  cases h : image.sections[index]? with
  | none => rfl
  | some draft => exact congrArg some (hrow index draft h)

/-! ### Acceptance -/

lemma magic_bytes : (Layout.magic image.bytes).toList = [0x7f, 0x45, 0x4c, 0x46] := by
  rw [Layout.magic, getD_bytes image (by omega), getD_bytes image (by omega),
    getD_bytes image (by omega), getD_bytes image (by omega),
    getElem_headerIdent image (by omega), getElem_headerIdent image (by omega),
    getElem_headerIdent image (by omega), getElem_headerIdent image (by omega)]
  rfl

lemma record_fits {index : Nat} (h : index < image.sections.length) :
    (Layout.record image.bytes index).offset.toNat +
      (Layout.record image.bytes index).size.toNat ≤ image.bytes.length := by
  have hdraft := List.getElem?_eq_getElem h
  have hle := payloadStart_add_le hdraft
  rw [record_bytes image hdraft, toNat_offset hdraft, toNat_size hdraft,
    ImageDraft.length_bytes]
  omega

theorem acceptable : Layout.Acceptable image.bytes where
  length := by
    rw [ImageDraft.length_bytes]
    omega
  magic := by
    have hlength := image.length_bytes
    rw [Layout.take_four (by omega), magic_bytes]
  objectClass := by
    have hlength := image.length_bytes
    rw [Layout.getElem?_eq_some_iff_getD (by omega), getD_bytes image (by omega),
      getElem_headerIdent image (by omega)]
    rfl
  encoding := by
    have hlength := image.length_bytes
    rw [Layout.getElem?_eq_some_iff_getD (by omega), Layout.getElem?_eq_some_iff_getD (by omega),
      getD_bytes image (by omega), getElem_headerIdent image (by omega)]
    cases horder : image.order with
    | little => exact .inl rfl
    | big => exact .inr rfl
  programTable := by
    rw [header_bytes]
    exact .inl rfl
  someSection := by
    rw [header_bytes, toNat_shnum]
    exact image.count_pos
  entrySize := by
    rw [header_bytes]
    rfl
  sectionTable := by
    apply Nat.le_of_eq
    rw [header_bytes, toNat_shoff, toNat_shnum, ImageDraft.length_bytes]
  contents := by
    rw [header_bytes, toNat_shnum]
    intro i hi _
    exact image.record_fits hi
  nameIndex := by
    rw [header_bytes, toNat_shnum, toNat_shstrndx]
    exact image.nameIndex_lt
  nameTable := by
    rw [Layout.nameRecord, header_bytes, toNat_shstrndx]
    exact image.record_fits image.nameIndex_lt

end Image

/-- An analysis of a written file gives back its header, its records and its names. -/
theorem Analysis.ofReader_image (image : Image) {reader : Reader} (h : reader.Faithful)
    (hcontent : reader.content = image.bytes) (path : String) :
    (ofReader reader path).1 = .ok
      { path, header := image.header, sectionHeaders := image.records,
        sections := image.rows } := by
  rw [ofReader_eq_run h, hcontent, Layout.run_checks_eq_ok_iff.mpr image.acceptable, ok_bind,
    Layout.analysis, Image.header_bytes, Image.records_bytes, Image.nameTable_bytes,
    Image.ofHeaders_records]

theorem Analysis.ofReader_twoSections :
    (Reader.honest Image.twoSections.bytes).Faithful ∧
      (ofReader (Reader.honest Image.twoSections.bytes) "a").1 = .ok
        { path := "a"
          header := Image.twoSections.header
          sectionHeaders := Image.twoSections.records
          sections := Image.twoSections.rows } ∧
      Image.twoSections.rows.map SectionSummary.name = ["ä", ".n"] := by
  have hfaithful : (Reader.honest Image.twoSections.bytes).Faithful :=
    Reader.faithful_honest Image.twoSections.bytes_lt
  exact ⟨hfaithful, ofReader_image Image.twoSections hfaithful rfl "a", rfl⟩

end ElfInspect
