import ElfInspect.Proofs.Acceptance
import ElfInspect.Proofs.Assembly

/-!
# Bytes and what they say

A structure that was read is written back as the bytes that it was read from. Together with the
reading of what was written, this makes the first 64 bytes of an object file and its header two
forms of the same thing: each determines the other, and bytes that are not the form of a header
are refused for the first reason there is.
-/

namespace ElfInspect

/-! ### What was read, written again -/

section Written

variable {order : ByteOrder} {content : Bytes} {start : Nat}

lemma slice_append_slice {size more next : Nat} (h : start + size = next) :
    slice content start size ++ slice content next more = slice content start (size + more) := by
  rw [← h, slice, slice, slice, List.take_add, List.drop_drop]

lemma encode_numberAt {width : Nat} (h : start + width ≤ content.length) :
    order.encode width (order.numberAt content start width) = slice content start width := by
  have hwritten := order.encode_decode (slice content start width)
  rwa [length_slice h] at hwritten

lemma numberAt_lt {width : Nat} (h : start + width ≤ content.length) :
    order.numberAt content start width < Nat.pow 256 width := by
  have hlt := order.decode_lt (slice content start width)
  rwa [length_slice h] at hlt

lemma encode_half (h : start + 2 ≤ content.length) :
    order.encode 2 (order.numberAt content start 2).toUInt16.toNat = slice content start 2 := by
  have hlt : order.numberAt content start 2 < 2 ^ 16 := numberAt_lt h
  rw [UInt16.toNat_ofNat_of_lt' hlt, encode_numberAt h]

lemma encode_word (h : start + 4 ≤ content.length) :
    order.encode 4 (order.numberAt content start 4).toUInt32.toNat = slice content start 4 := by
  have hlt : order.numberAt content start 4 < 2 ^ 32 := numberAt_lt h
  rw [UInt32.toNat_ofNat_of_lt' hlt, encode_numberAt h]

lemma encode_xword (h : start + 8 ≤ content.length) :
    order.encode 8 (order.numberAt content start 8).toUInt64.toNat = slice content start 8 := by
  have hlt : order.numberAt content start 8 < 2 ^ 64 := numberAt_lt h
  rw [UInt64.toNat_ofNat_of_lt' hlt, encode_numberAt h]

lemma toList_ident (h : 16 ≤ content.length) :
    (Layout.ident content).toList = slice content 0 16 := by
  have hlength : (slice content 0 16).length = 16 := length_slice (by omega)
  apply List.ext_getElem
  · rw [Vector.length_toList, hlength]
  · intro i hleft hright
    rw [Vector.length_toList] at hleft
    rw [Vector.getElem_toList, getElem_ident i hleft, List.getD_eq_getElem?_getD,
      List.getElem?_eq_getElem (by omega), Option.getD_some]
    simp only [slice, List.drop_zero, List.getElem_take]

/-- The header that stands in front of a file is written as the first 64 bytes of it. -/
theorem encode_headerIn (h : 64 ≤ content.length) :
    (Layout.headerIn order content).encode order = slice content 0 64 := by
  have hident : (Layout.headerIn order content).ident = Layout.ident content := rfl
  rw [FileHeader.encode, hident, toList_ident (by omega), FileHeader.encodeFields]
  simp only [Layout.headerIn]
  rw [encode_half (by omega), encode_half (by omega), encode_word (by omega),
    encode_xword (by omega), encode_xword (by omega), encode_xword (by omega),
    encode_word (by omega), encode_half (by omega), encode_half (by omega),
    encode_half (by omega), encode_half (by omega), encode_half (by omega),
    encode_half (by omega)]
  simp only [slice_append_slice, Nat.reduceAdd]

/-- The record at a position is written as the 64 bytes from there on. -/
theorem encode_recordAt (h : start + 64 ≤ content.length) :
    (Layout.recordAt order content start).encode order = slice content start 64 := by
  rw [SectionHeader.encode]
  simp only [Layout.recordAt]
  rw [encode_word (by omega), encode_word (by omega), encode_xword (by omega),
    encode_xword (by omega), encode_xword (by omega), encode_xword (by omega),
    encode_word (by omega), encode_word (by omega), encode_xword (by omega),
    encode_xword (by omega)]
  simp only [slice_append_slice, Nat.reduceAdd]

/-- Records that stand one after another are written as the bytes of all of them. -/
theorem flatMap_encode_recordAt (count : Nat) (h : start + 64 * count ≤ content.length) :
    ((List.range count).map fun i => Layout.recordAt order content (start + 64 * i)).flatMap
      (SectionHeader.encode order) = slice content start (64 * count) := by
  induction count with
  | zero => rfl
  | succ count ih =>
    rw [List.range_succ, List.map_append, List.flatMap_append, ih (by omega), List.map_singleton,
      List.flatMap_singleton, encode_recordAt (by omega), slice_append_slice rfl]
    rfl

end Written

/-! ### Headers -/

namespace FileHeader

/-- The identification is that of a 64-bit object file in the byte order. -/
structure Declares (header : FileHeader) (order : ByteOrder) : Prop where
  magic : header.magic.toList = [0x7f, 0x45, 0x4c, 0x46]
  objectClass : header.classCode = 2
  encoding : header.encoding = order.code

/-- What bytes come to as a file header: the header whose form they begin with, or the first
reason there is against one. -/
inductive Verdict (bytes : Bytes) : Except Fault FileHeader → Prop where
  | accepted {header : FileHeader} {order : ByteOrder} {rest : Bytes}
      (hdeclares : header.Declares order) (hbytes : bytes = header.encode order ++ rest) :
      Verdict bytes (.ok header)
  | truncated (hlength : bytes.length < 64) :
      Verdict bytes (.error (.format (.truncated .fileHeader 0 64 bytes.length.toUInt64)))
  | badMagic {found : Vector UInt8 4} (hlength : 64 ≤ bytes.length)
      (hfound : bytes.take 4 = found.toList) (hne : found.toList ≠ [0x7f, 0x45, 0x4c, 0x46]) :
      Verdict bytes (.error (.format (.badMagic found)))
  | unsupportedClass {code : UInt8} (hlength : 64 ≤ bytes.length)
      (hmagic : bytes.take 4 = [0x7f, 0x45, 0x4c, 0x46]) (hcode : bytes[4]? = some code)
      (hne : code ≠ 2) :
      Verdict bytes (.error (.format (.unsupportedClass code)))
  | unsupportedEncoding {code : UInt8} (hlength : 64 ≤ bytes.length)
      (hmagic : bytes.take 4 = [0x7f, 0x45, 0x4c, 0x46]) (hclass : bytes[4]? = some 2)
      (hcode : bytes[5]? = some code) (hlittle : code ≠ 1) (hbig : code ≠ 2) :
      Verdict bytes (.error (.format (.unsupportedEncoding code)))

section Verdict

open Layout

variable {bytes : Bytes} {header : FileHeader} {order : ByteOrder}

lemma getD_encode_append {i : Nat} (h : i < 16) (rest : Bytes) :
    (header.encode order ++ rest).getD i 0 = header.ident[i] := by
  rw [← getElem_ident i h]
  simp only [ident_encode_append]

lemma magic_encode_append (rest : Bytes) :
    Layout.magic (header.encode order ++ rest) = header.magic := by
  rw [Layout.magic, getD_encode_append (by omega), getD_encode_append (by omega),
    getD_encode_append (by omega), getD_encode_append (by omega)]
  rfl

/-- A header that was written is read again, whatever follows it. -/
lemma parse_encode_append (h : header.Declares order) (rest : Bytes) :
    parse (header.encode order ++ rest) = .ok header := by
  have hlength : 64 ≤ (header.encode order ++ rest).length := by
    rw [List.length_append, length_encode]
    exact Nat.le_add_right _ _
  have hencoding : (header.encode order ++ rest).getD 5 0 = order.code :=
    (getD_encode_append (by omega) rest).trans h.encoding
  have hclass : (header.encode order ++ rest).getD 4 0 = 2 :=
    (getD_encode_append (by omega) rest).trans h.objectClass
  have horder : Layout.order (header.encode order ++ rest) = order := by
    apply order_eq_of_ofCode?_eq_some
    rw [hencoding, ByteOrder.ofCode?_code]
  have hchecks : Check.run (identChecks (header.encode order ++ rest)) = .ok () := by
    rw [Check.run_eq_ok_iff]
    simp only [identChecks, List.forall_mem_cons, decide_eq_true_eq, magic_encode_append,
      h.magic, hclass, hencoding]
    cases order <;> simp [ByteOrder.code]
  rw [parse_eq_run hlength, hchecks, ok_bind, Layout.header, horder, headerIn_encode_append]

lemma Verdict.parse_eq {result : Except Fault FileHeader} (h : Verdict bytes result) :
    parse bytes = result := by
  cases h with
  | accepted hdeclares hbytes => rw [hbytes, parse_encode_append hdeclares]
  | truncated hlength =>
    have hshort : bytes.length < byteSize := hlength
    rw [parse, if_pos hshort]
    rfl
  | badMagic hlength hfound hne =>
    rw [take_four (by omega), Vector.toList_inj] at hfound
    subst hfound
    rw [parse_eq_run hlength, identChecks, Check.run_cons_of_not_holds (decide_eq_false hne),
      error_bind]
  | unsupportedClass hlength hmagic hcode hne =>
    rw [take_four (by omega)] at hmagic
    rw [getElem?_eq_some_iff_getD (by omega)] at hcode
    subst hcode
    rw [parse_eq_run hlength, identChecks, Check.run_cons_of_holds (decide_eq_true hmagic),
      Check.run_cons_of_not_holds (decide_eq_false hne), error_bind]
  | unsupportedEncoding hlength hmagic hclass hcode hlittle hbig =>
    rw [take_four (by omega)] at hmagic
    rw [getElem?_eq_some_iff_getD (by omega)] at hclass hcode
    subst hcode
    have hne := not_or.mpr ⟨hlittle, hbig⟩
    rw [parse_eq_run hlength, identChecks, Check.run_cons_of_holds (decide_eq_true hmagic),
      Check.run_cons_of_holds (decide_eq_true hclass),
      Check.run_cons_of_not_holds (decide_eq_false hne), error_bind]

/-- Bytes with the identification of an object file begin with the form of a header. -/
lemma verdict_headerIn (hlength : 64 ≤ bytes.length)
    (hmagic : bytes.take 4 = [0x7f, 0x45, 0x4c, 0x46]) (hclass : bytes[4]? = some 2)
    (hcode : bytes[5]? = some order.code) : Verdict bytes (.ok (headerIn order bytes)) := by
  rw [take_four (by omega)] at hmagic
  rw [getElem?_eq_some_iff_getD (by omega)] at hclass hcode
  have hbytes : bytes = (headerIn order bytes).encode order ++ bytes.drop 64 := by
    rw [encode_headerIn hlength, slice, List.drop_zero, List.take_append_drop]
  refine .accepted { magic := ?_, objectClass := ?_, encoding := ?_ } hbytes
  · rw [← hmagic]
    simp only [FileHeader.magic, headerIn, getElem_ident, Layout.magic]
  · simp only [classCode, headerIn, getElem_ident, hclass]
  · simp only [encoding, headerIn, getElem_ident, hcode]

lemma exists_verdict (bytes : Bytes) : ∃ result, Verdict bytes result := by
  by_cases hlength : bytes.length < 64
  · exact ⟨_, .truncated hlength⟩
  rw [Nat.not_lt] at hlength
  by_cases hmagic : bytes.take 4 = [0x7f, 0x45, 0x4c, 0x46]
  · obtain ⟨objectClass, hclass⟩ : ∃ code, bytes[4]? = some code :=
      ⟨_, List.getElem?_eq_getElem (by omega)⟩
    obtain ⟨code, hcode⟩ : ∃ code, bytes[5]? = some code :=
      ⟨_, List.getElem?_eq_getElem (by omega)⟩
    by_cases hobject : objectClass = 2
    · rw [hobject] at hclass
      by_cases hlittle : code = 1
      · rw [hlittle] at hcode
        exact ⟨_, @verdict_headerIn bytes .little hlength hmagic hclass hcode⟩
      · by_cases hbig : code = 2
        · rw [hbig] at hcode
          exact ⟨_, @verdict_headerIn bytes .big hlength hmagic hclass hcode⟩
        · exact ⟨_, .unsupportedEncoding hlength hmagic hclass hcode hlittle hbig⟩
    · exact ⟨_, .unsupportedClass hlength hmagic hclass hobject⟩
  · have hfound : bytes.take 4 = (Layout.magic bytes).toList := take_four (by omega)
    rw [hfound] at hmagic
    exact ⟨_, .badMagic hlength hfound hmagic⟩

end Verdict

/-- Parsing gives a header exactly for the bytes that begin with its form, and otherwise the
first reason against one, which is never a failure of the reader. -/
theorem parse_eq_iff_verdict {bytes : Bytes} {result : Except Fault FileHeader} :
    parse bytes = result ↔ Verdict bytes result := by
  constructor
  · rintro rfl
    obtain ⟨result, hresult⟩ := exists_verdict bytes
    rw [hresult.parse_eq]
    exact hresult
  · exact Verdict.parse_eq

end FileHeader

end ElfInspect
