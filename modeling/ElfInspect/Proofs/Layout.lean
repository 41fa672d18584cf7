import ElfInspect.FileHeader.Basic
import ElfInspect.Proofs.Results
import ElfInspect.Section.Header
import Mathlib.Tactic.Lemma

/-!
# What stands where in a file

Headers and records by the positions of their fields. The decoders take the fields one after
another; here every field is the number at a fixed distance from the start of its structure,
and the two ways of reading are shown to agree.
-/

namespace ElfInspect

/-- The `size` bytes of a file from `start` on, as far as there are so many. -/
def slice (content : Bytes) (start size : Nat) : Bytes :=
  (content.drop start).take size

lemma length_slice {content : Bytes} {start size : Nat} (h : start + size ≤ content.length) :
    (slice content start size).length = size := by
  rw [slice, List.length_take, List.length_drop]
  omega

lemma slice_slice {content : Bytes} {start size inner count : Nat} (h : inner + count ≤ size) :
    slice (slice content start size) inner count = slice content (start + inner) count := by
  rw [slice, slice, slice, List.drop_take, List.drop_drop, List.take_take]
  congr 1
  omega

lemma slice_append_left {front rest : Bytes} {start size : Nat}
    (h : start + size ≤ front.length) :
    slice (front ++ rest) start size = slice front start size := by
  rw [slice, slice, List.drop_append_of_le_length (by omega), List.take_append_of_le_length]
  rw [List.length_drop]
  omega

lemma slice_append_right {front rest : Bytes} {start size : Nat} :
    slice (front ++ rest) (front.length + start) size = slice rest start size := by
  have hdrop : front.drop (front.length + start) = [] := List.drop_eq_nil_of_le (by omega)
  rw [slice, slice, List.drop_append, hdrop, List.nil_append, Nat.add_sub_cancel_left]

/-- The number in the `width` bytes from `start` on. -/
def ByteOrder.numberAt (order : ByteOrder) (content : Bytes) (start width : Nat) : Nat :=
  order.decode (slice content start width)

namespace Layout

/-- The identification bytes; missing ones count as zero. -/
def ident (content : Bytes) : Vector UInt8 16 :=
  Vector.ofFn fun i => content.getD i 0

/-- The file header in a known byte order. -/
def headerIn (order : ByteOrder) (content : Bytes) : FileHeader where
  ident := ident content
  type := (order.numberAt content 16 2).toUInt16
  machine := (order.numberAt content 18 2).toUInt16
  version := (order.numberAt content 20 4).toUInt32
  entry := (order.numberAt content 24 8).toUInt64
  phoff := (order.numberAt content 32 8).toUInt64
  shoff := (order.numberAt content 40 8).toUInt64
  flags := (order.numberAt content 48 4).toUInt32
  ehsize := (order.numberAt content 52 2).toUInt16
  phentsize := (order.numberAt content 54 2).toUInt16
  phnum := (order.numberAt content 56 2).toUInt16
  shentsize := (order.numberAt content 58 2).toUInt16
  shnum := (order.numberAt content 60 2).toUInt16
  shstrndx := (order.numberAt content 62 2).toUInt16

/-- The section header that starts at a position. -/
def recordAt (order : ByteOrder) (content : Bytes) (start : Nat) : SectionHeader where
  name := (order.numberAt content start 4).toUInt32
  type := (order.numberAt content (start + 4) 4).toUInt32
  flags := (order.numberAt content (start + 8) 8).toUInt64
  addr := (order.numberAt content (start + 16) 8).toUInt64
  offset := (order.numberAt content (start + 24) 8).toUInt64
  size := (order.numberAt content (start + 32) 8).toUInt64
  link := (order.numberAt content (start + 40) 4).toUInt32
  info := (order.numberAt content (start + 44) 4).toUInt32
  addralign := (order.numberAt content (start + 48) 8).toUInt64
  entsize := (order.numberAt content (start + 56) 8).toUInt64

/-- The byte order that the sixth byte declares; any byte but 2 counts as little endian. -/
def order (content : Bytes) : ByteOrder :=
  if content.getD 5 0 = 2 then .big else .little

def header (content : Bytes) : FileHeader :=
  headerIn (order content) content

/-- A record of the table that the header places. -/
def record (content : Bytes) (index : Nat) : SectionHeader :=
  recordAt (order content) content ((header content).shoff.toNat + 64 * index)

def records (content : Bytes) : List SectionHeader :=
  (List.range (header content).shnum.toNat).map (record content)

/-- The record that the header names as that of the name table. -/
def nameRecord (content : Bytes) : SectionHeader :=
  record content (header content).shstrndx.toNat

/-- The bytes of a name: from its offset in the name table up to a zero byte or to the end of
the table. -/
def nameRun (content : Bytes) (offset : Nat) : Bytes :=
  let start := (nameRecord content).offset.toNat + offset
  let stop := (nameRecord content).offset.toNat + (nameRecord content).size.toNat
  (slice content start (stop - start)).takeWhile (· ≠ 0)

end Layout

/-! ### Decoders at a position -/

section Decoders

open Decoder

variable {order : ByteOrder} {content : Bytes} {start : Nat}

lemma number_drop {width : Nat} (h : start + width ≤ content.length) :
    number order width (content.drop start) =
      .ok (order.numberAt content start width, content.drop (start + width)) := by
  rw [number_of_le (by rw [List.length_drop]; omega), List.drop_drop]
  rfl

lemma half_drop (h : start + 2 ≤ content.length) :
    half order (content.drop start) =
      .ok ((order.numberAt content start 2).toUInt16, content.drop (start + 2)) := by
  simp only [half, Functor.map, StateT.map, number_drop h]
  rfl

lemma word_drop (h : start + 4 ≤ content.length) :
    word order (content.drop start) =
      .ok ((order.numberAt content start 4).toUInt32, content.drop (start + 4)) := by
  simp only [word, Functor.map, StateT.map, number_drop h]
  rfl

lemma xword_drop (h : start + 8 ≤ content.length) :
    xword order (content.drop start) =
      .ok ((order.numberAt content start 8).toUInt64, content.drop (start + 8)) := by
  simp only [xword, Functor.map, StateT.map, number_drop h]
  rfl

theorem decodeFields_drop (h : 64 ≤ content.length) :
    FileHeader.decodeFields (Layout.ident content) order (content.drop 16) =
      .ok (Layout.headerIn order content, content.drop 64) := by
  unfold FileHeader.decodeFields
  rw [bind_of_ok (half_drop (by omega)), bind_of_ok (half_drop (by omega)),
    bind_of_ok (word_drop (by omega)), bind_of_ok (xword_drop (by omega)),
    bind_of_ok (xword_drop (by omega)), bind_of_ok (xword_drop (by omega)),
    bind_of_ok (word_drop (by omega)), bind_of_ok (half_drop (by omega)),
    bind_of_ok (half_drop (by omega)), bind_of_ok (half_drop (by omega)),
    bind_of_ok (half_drop (by omega)), bind_of_ok (half_drop (by omega)),
    bind_of_ok (half_drop (by omega))]
  rfl

theorem decode_drop (h : start + 64 ≤ content.length) :
    SectionHeader.decode order (content.drop start) =
      .ok (Layout.recordAt order content start, content.drop (start + 64)) := by
  unfold SectionHeader.decode
  rw [bind_of_ok (word_drop (by omega)), bind_of_ok (word_drop (by omega)),
    bind_of_ok (xword_drop (by omega)), bind_of_ok (xword_drop (by omega)),
    bind_of_ok (xword_drop (by omega)), bind_of_ok (xword_drop (by omega)),
    bind_of_ok (word_drop (by omega)), bind_of_ok (word_drop (by omega)),
    bind_of_ok (xword_drop (by omega)), bind_of_ok (xword_drop (by omega))]
  rfl

theorem many_decode_drop (count : Nat) (h : start + 64 * count ≤ content.length) :
    (SectionHeader.decode order).many count (content.drop start) =
      .ok ((List.range count).map fun i => Layout.recordAt order content (start + 64 * i),
        content.drop (start + 64 * count)) := by
  induction count generalizing start with
  | zero => rfl
  | succ count ih =>
    have hnext := @ih (start + 64) (by omega)
    rw [many_succ, bind_of_ok (decode_drop (by omega)), bind_of_ok hnext, List.range_succ_eq_map,
      List.map_cons, List.map_map]
    have hstop : start + 64 + 64 * count = start + 64 * (count + 1) := by omega
    have htail : (fun i => Layout.recordAt order content (start + 64 * i)) ∘ Nat.succ =
        fun i => Layout.recordAt order content (start + 64 + 64 * i) := by
      funext i
      have hi : start + 64 * Nat.succ i = start + 64 + 64 * i := by omega
      simp only [Function.comp_apply, hi]
    rw [hstop, htail]
    rfl

end Decoders

/-! ### The identification -/

lemma block_ident {content : Bytes} (h : 16 ≤ content.length) :
    Decoder.block 16 content = .ok (Layout.ident content, content.drop 16) := by
  rw [Decoder.block_of_le h]
  congr 2
  ext i hi
  simp only [Layout.ident, Vector.getElem_ofFn, Vector.getElem_mk, List.getElem_toArray,
    List.getElem_take, List.getD_eq_getElem?_getD]
  rw [List.getElem?_eq_getElem (by omega), Option.getD_some]

/-- Once there are enough bytes, only the identification can fail. -/
theorem parse_of_le_length {content : Bytes} (h : 64 ≤ content.length) :
    FileHeader.parse content =
      (FileHeader.identify (Layout.ident content)).mapError Fault.format >>= fun order =>
        .ok (Layout.headerIn order content) := by
  rw [FileHeader.parse, FileHeader.byteSize, if_neg (by omega), block_ident (by omega)]
  simp only [mapError_ok, ok_bind, decodeFields_drop h]
  rfl

/-! ### Structures cut out of a file -/

lemma numberAt_slice {order : ByteOrder} {content : Bytes} {start size inner width : Nat}
    (h : inner + width ≤ size) :
    order.numberAt (slice content start size) inner width =
      order.numberAt content (start + inner) width := by
  rw [ByteOrder.numberAt, ByteOrder.numberAt, slice_slice h]

lemma recordAt_slice {order : ByteOrder} {content : Bytes} {start size inner : Nat}
    (h : inner + 64 ≤ size) :
    Layout.recordAt order (slice content start size) inner =
      Layout.recordAt order content (start + inner) := by
  simp (disch := omega) only [Layout.recordAt, numberAt_slice, Nat.add_assoc]

end ElfInspect
