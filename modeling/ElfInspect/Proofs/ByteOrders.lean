import ElfInspect.Proofs.Acceptance
import ElfInspect.Proofs.Accounts
import ElfInspect.Proofs.Assembly

/-!
# One file in two byte orders

A header, a payload and a table of records are written twice, with the numbers of header and
table in either byte order and the payload as it is. Where the names are looked up in the
payload, if anywhere, an analysis makes no difference between the two files: it says the same
of both, on the log as well, but for the byte that declares the order.
-/

namespace ElfInspect

namespace FileHeader

/-- The header with the declaration of a byte order. -/
def inOrder (order : ByteOrder) (header : FileHeader) : FileHeader :=
  { header with ident := header.ident.setIfInBounds 5 order.code }

/-- The checks of the identification before the byte order is looked at. -/
def checkFront (header : FileHeader) : Except FormatError Unit := do
  if header.magic ≠ elfMagic then
    throw (.badMagic header.magic)
  if header.classCode ≠ class64 then
    throw (.unsupportedClass header.classCode)

variable (order : ByteOrder) (header : FileHeader)

lemma getElem_ident_inOrder (i : Nat) (h : i < 16) (hne : i ≠ 5) :
    (header.inOrder order).ident[i] = header.ident[i] :=
  Vector.getElem_setIfInBounds_ne h hne.symm

lemma encoding_inOrder : (header.inOrder order).encoding = order.code :=
  Vector.getElem_setIfInBounds_self _

lemma byteOrder?_inOrder : (header.inOrder order).byteOrder? = some order := by
  rw [byteOrder?, encoding_inOrder, ByteOrder.ofCode?_code]

lemma identify_inOrder :
    identify (header.inOrder order).ident = header.checkFront >>= fun _ => .ok order := by
  have hmagic : #v[header.ident[0], header.ident[1], header.ident[2], header.ident[3]] =
      header.magic := rfl
  have hclass : header.ident[4] = header.classCode := rfl
  have hencoding : (header.inOrder order).ident[5] = order.code := encoding_inOrder order header
  unfold identify checkFront
  simp only [hencoding, getElem_ident_inOrder order header 0 (by omega) (by omega),
    getElem_ident_inOrder order header 1 (by omega) (by omega),
    getElem_ident_inOrder order header 2 (by omega) (by omega),
    getElem_ident_inOrder order header 3 (by omega) (by omega),
    getElem_ident_inOrder order header 4 (by omega) (by omega),
    hmagic, hclass, ByteOrder.ofCode?_code]
  by_cases h : header.magic = elfMagic
  · rw [if_neg (not_not_intro h), if_neg (not_not_intro h)]
    by_cases h' : header.classCode = class64
    · rw [if_neg (not_not_intro h'), if_neg (not_not_intro h')]
      rfl
    · rw [if_pos h', if_pos h']
      rfl
  · rw [if_pos h, if_pos h]
    rfl

lemma parse_encode_inOrder :
    parse ((header.inOrder order).encode order) =
      header.checkFront.mapError Fault.format >>= fun _ => .ok (header.inOrder order) := by
  have hident := @Layout.ident_encode_append order (header.inOrder order) []
  have hheader := @Layout.headerIn_encode_append order (header.inOrder order) []
  rw [List.append_nil] at hident hheader
  rw [parse_of_le_length (Nat.le_of_eq (length_encode _ _).symm), hident, identify_inOrder]
  cases header.checkFront with
  | error error => rfl
  | ok _ => rw [ok_bind, mapError_ok, mapError_ok, ok_bind, ok_bind, hheader]

end FileHeader

namespace Layout

/-- The table stands behind the payload, and the name table in the payload, unless it is empty
or does not fit in the file. -/
structure Placed (header : FileHeader) (payload : Bytes) (records : List SectionHeader) :
    Prop where
  shoff : header.shoff.toNat = 64 + payload.length
  shnum : header.shnum.toNat = records.length
  names : ∀ sh, records[header.shstrndx.toNat]? = some sh →
    sh.size.toNat = 0 ∨
      64 ≤ sh.offset.toNat ∧ sh.offset.toNat + sh.size.toNat ≤ 64 + payload.length ∨
      64 + payload.length + 64 * records.length < sh.offset.toNat + sh.size.toNat

end Layout

namespace File

open Account

/-- The file is served in full and holds the three parts in a byte order. -/
structure Holds (file : File) (order : ByteOrder) (header : FileHeader) (payload : Bytes)
    (records : List SectionHeader) : Prop where
  content : file.content = Layout.assemble order (header.inOrder order) payload records
  full : file.length.toNat = file.content.length

lemma read_of_fits {file : File} {part : Part} {extent : Extent}
    (hfull : file.length.toNat = file.content.length)
    (h : extent.offset.toNat + extent.size.toNat ≤ file.content.length) :
    file.read part extent =
      pure (slice file.content extent.offset.toNat extent.size.toNat) :=
  read_of_le (by rw [hfull]; exact h) h

section Holds

variable {file : File} {order : ByteOrder} {header : FileHeader} {payload : Bytes}
  {records : List SectionHeader} (hholds : file.Holds order header payload records)

include hholds

lemma header_of_holds :
    file.header = (do
      ofExcept (header.checkFront.mapError Fault.format)
      ofExcept (header.checkTables file.length)
      note [header.event]
      return header.inOrder order) := by
  have hlength : 0 + 64 ≤ file.content.length := by
    rw [hholds.content, Layout.length_assemble]
    omega
  have hread : file.read .fileHeader ⟨0, FileHeader.byteSize.toUInt64⟩ =
      pure (slice file.content 0 64) :=
    @read_of_fits file .fileHeader ⟨0, FileHeader.byteSize.toUInt64⟩ hholds.full hlength
  rw [hholds.content, Layout.slice_assemble_header] at hread
  rw [File.header, hread]
  change (Account.ofExcept (FileHeader.parse _) >>= _) = _
  rw [FileHeader.parse_encode_inOrder]
  cases header.checkFront with
  | error error => rfl
  | ok _ => rfl

variable (hplaced : Layout.Placed header payload records)

include hplaced

lemma records_of_holds :
    file.records (header.inOrder order) order = (do
      note (SectionTable.warnings file.length records)
      ofExcept (SectionTable.check file.length records)
      note [.sectionsRead records.length]
      return records) := by
  have hfits : header.shoff.toNat + 64 * header.shnum.toNat ≤ file.content.length := by
    apply Nat.le_of_eq
    rw [hholds.content, Layout.length_assemble, hplaced.shoff, hplaced.shnum]
  rw [← extent_size, ← extent_offset] at hfits
  have hread : file.read .sectionHeaderTable (SectionTable.extent header) =
      pure (records.flatMap (SectionHeader.encode order)) := by
    rw [read_of_fits hholds.full hfits, extent_size, extent_offset, hholds.content,
      hplaced.shoff, hplaced.shnum, Layout.slice_assemble_table]
  have hmany := Decoder.many_flatMap_append (SectionHeader.decode_encode_append order) records []
  rw [List.append_nil, ← hplaced.shnum] at hmany
  change (file.read .sectionHeaderTable (SectionTable.extent header) >>= _) = _
  rw [hread]
  change (Account.ofExcept (((SectionHeader.decode order).many header.shnum.toNat _).mapError
    Fault.io) >>= _) = _
  rw [hmany]
  rfl

end Holds

section Pair

variable {first second : File} {header : FileHeader} {payload : Bytes}
  {records : List SectionHeader} (hplaced : Layout.Placed header payload records)
  (hfirst : first.Holds .little header payload records)
  (hsecond : second.Holds .big header payload records)

include hplaced hfirst hsecond

/-- Whatever the tables come to, it is the same, and if it is a list it is that of the records. -/
lemma sections_agree_of_holds (hlength : first.length = second.length) :
    Agree (fun x y => x = records ∧ y = records) (first.sections (header.inOrder .little))
      (second.sections (header.inOrder .big)) := by
  by_cases hnum : header.shnum = 0
  · have hnone : records = [] := by
      have hcount := hplaced.shnum
      rw [hnum] at hcount
      exact List.length_eq_zero_iff.mp hcount.symm
    have hnum' : ∀ order, (header.inOrder order).shnum = 0 := fun _ => hnum
    rw [sections_of_shnum_eq_zero (hnum' _), sections_of_shnum_eq_zero (hnum' _), hnone]
    apply Agree.after
    intro _
    exact agree_pure ⟨rfl, rfl⟩
  have hnum' : ∀ order, (header.inOrder order).shnum ≠ 0 := fun _ => hnum
  have horder := FileHeader.byteOrder?_inOrder
  by_cases hsize : header.shentsize = SectionTable.entrySize
  · have hsize' : ∀ order, (header.inOrder order).shentsize = SectionTable.entrySize :=
      fun _ => hsize
    rw [sections_of_byteOrder?_eq_some (hnum' _) (hsize' _) (horder _ _),
      sections_of_byteOrder?_eq_some (hnum' _) (hsize' _) (horder _ _),
      records_of_holds hfirst hplaced, records_of_holds hsecond hplaced, hlength]
    apply Agree.after
    intro _
    apply Agree.after
    intro _
    apply Agree.after
    intro _
    exact agree_pure ⟨rfl, rfl⟩
  · have hsize' : ∀ order, (header.inOrder order).shentsize ≠ SectionTable.entrySize :=
      fun _ => hsize
    rw [sections_of_shentsize_ne (hnum' _) (hsize' _), sections_of_shentsize_ne (hnum' _) (hsize' _)]
    exact ⟨rfl, .inl ⟨_, rfl, rfl⟩⟩

lemma names_eq_of_holds (hlength : first.length = second.length) :
    first.names (header.inOrder .little) records = second.names (header.inOrder .big) records := by
  have horder : second.names (header.inOrder .big) records =
      second.names (header.inOrder .little) records := rfl
  rw [horder]
  apply names_congr
  intro sh hsh
  apply read_congr hlength
  intro hfits
  rw [hfirst.full, hfirst.content, Layout.length_assemble] at hfits
  rw [hfirst.content, hsecond.content]
  -- The third case is excluded, as only an extent that fits is read.
  rcases hplaced.names sh hsh with hempty | ⟨hstart, hstop⟩ | houtside
  · have hsize : sh.extent.size.toNat = 0 := hempty
    rw [slice, slice, hsize, List.take_zero, List.take_zero]
  · have hleft := @Layout.slice_assemble_payload .little (header.inOrder .little) payload records
      _ _ hstart hstop
    have hright := @Layout.slice_assemble_payload .big (header.inOrder .big) payload records
      _ _ hstart hstop
    exact hleft.trans hright.symm
  · exact absurd hfits (Nat.not_le_of_lt houtside)

theorem analysis_agree_of_holds (hlength : first.length = second.length) (path : String) :
    Agree
      (fun x y => ∃ rows,
        x = { path, header := header.inOrder .little, sectionHeaders := records,
              sections := rows } ∧
          y = { path, header := header.inOrder .big, sectionHeaders := records,
                sections := rows })
      (first.analysis path) (second.analysis path) := by
  apply analysis_agree hlength
  · rw [header_of_holds hfirst, header_of_holds hsecond, hlength]
    apply Agree.after
    intro _
    apply Agree.after
    intro _
    apply Agree.after
    intro _
    exact agree_pure ⟨rfl, rfl⟩
  · intro _
    exact sections_agree_of_holds hplaced hfirst hsecond hlength
  · intro _ _
    exact names_eq_of_holds hplaced hfirst hsecond hlength

end Pair

end File

namespace Analysis

/-- The two files have the same log, and the same error or the same analysis but for the byte
that declares the order. -/
theorem ofReader_assemble_inOrder {header : FileHeader} {payload : Bytes}
    {records : List SectionHeader} (hplaced : Layout.Placed header payload records)
    {little big : Reader} (hlittle : little.Faithful) (hbig : big.Faithful)
    (hlittleContent : little.content =
      Layout.assemble .little (header.inOrder .little) payload records)
    (hbigContent : big.content = Layout.assemble .big (header.inOrder .big) payload records)
    (path : String) :
    (ofReader little path).2 = (ofReader big path).2 ∧
      ((∃ fault, (ofReader little path).1 = .error fault ∧
          (ofReader big path).1 = .error fault) ∨
        ∃ rows,
          (ofReader little path).1 = .ok
            { path, header := header.inOrder .little, sectionHeaders := records,
              sections := rows } ∧
          (ofReader big path).1 = .ok
            { path, header := header.inOrder .big, sectionHeaders := records,
              sections := rows }) := by
  have hreported : little.reportedLength = big.reportedLength := by
    apply UInt64.toNat_inj.mp
    rw [hlittle.length, hbig.length, hlittleContent, hbigContent, Layout.length_assemble,
      Layout.length_assemble]
  have hfirst : File.Holds ⟨little.content, little.reportedLength⟩ .little header payload
      records := ⟨hlittleContent, hlittle.length⟩
  have hsecond : File.Holds ⟨big.content, big.reportedLength⟩ .big header payload records :=
    ⟨hbigContent, hbig.length⟩
  rw [ofReader_eq_account hlittle.readFault hlittle.seekFault,
    ofReader_eq_account hbig.readFault hbig.seekFault, Reader.file_of_faithful hlittle,
    Reader.file_of_faithful hbig]
  obtain ⟨hlog, hfault | ⟨_, _, hx, hy, rows, rfl, rfl⟩⟩ :=
    File.analysis_agree_of_holds hplaced hfirst hsecond hreported path
  · exact ⟨hlog, .inl hfault⟩
  · exact ⟨hlog, .inr ⟨rows, hx, hy⟩⟩

/-- A name table in the payload, and a record whose contents would lie far outside. -/
theorem ofReader_nobits_inOrder :
    let header : FileHeader := { selfDescribing 2 with machine := 62, shoff := 67 }
    let payload : Bytes := [0, 0x61, 0]
    let records : List SectionHeader := [
      { name := 1, type := 3, flags := 0, addr := 0, offset := 64, size := 3, link := 0,
        info := 0, addralign := 1, entsize := 0 },
      { name := 9, type := 8, flags := 3, addr := 0x400000, offset := 0x1000, size := 5,
        link := 0, info := 0, addralign := 8, entsize := 0 }]
    let little := Reader.honest (Layout.assemble .little (header.inOrder .little) payload records)
    let big := Reader.honest (Layout.assemble .big (header.inOrder .big) payload records)
    Layout.Placed header payload records ∧ (ofReader little "a").2 = (ofReader big "a").2 ∧
      ∃ rows,
        (ofReader little "a").1 = .ok
          { path := "a", header := header.inOrder .little, sectionHeaders := records,
            sections := rows } ∧
        (ofReader big "a").1 = .ok
          { path := "a", header := header.inOrder .big, sectionHeaders := records,
            sections := rows } := by
  intro header payload records little big
  have hplaced : Layout.Placed header payload records := {
    shoff := rfl
    shnum := rfl
    names := by
      intro sh hsh
      cases hsh
      exact .inr (.inl (by decide)) }
  have hlittle : little.Faithful := Reader.faithful_honest (by decide +kernel)
  have hbig : big.Faithful := Reader.faithful_honest (by decide +kernel)
  obtain ⟨hlog, ⟨fault, hfault, -⟩ | hrows⟩ :=
    ofReader_assemble_inOrder hplaced hlittle hbig rfl rfl "a"
  · have hisOk : (little.file.analysis "a").result.isOk = true := by decide +kernel
    have haccount : (ofReader little "a").1 = (little.file.analysis "a").result := by
      rw [ofReader_eq_account rfl rfl]
    rw [← haccount, hfault] at hisOk
    cases hisOk
  · exact ⟨hplaced, hlog, hrows⟩

end Analysis

end ElfInspect
