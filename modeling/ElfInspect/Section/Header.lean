import ElfInspect.Byte.Decoder
import ElfInspect.Byte.Extent
import ElfInspect.Section.Label

/-!
# Section headers

One record of the section header table: 64 bytes that describe a section. The fields `link`
and `info` may hold indices into the table. They are followed only on request, and such an
index may lead nowhere.
-/

namespace ElfInspect

structure SectionHeader where
  name : UInt32
  type : UInt32
  flags : UInt64
  addr : UInt64
  offset : UInt64
  size : UInt64
  link : UInt32
  info : UInt32
  addralign : UInt64
  entsize : UInt64
  deriving DecidableEq, Repr

namespace SectionHeader

def byteSize : Nat := 64

/-- The type of sections that take up memory but no bytes of the file. -/
def nobitsType : UInt32 := 8

def isNobits (header : SectionHeader) : Bool :=
  header.type = nobitsType

def extent (header : SectionHeader) : Extent where
  offset := header.offset
  size := header.size

/-- Whether the contents of a section end within a file of `length` bytes. -/
def fits (header : SectionHeader) (length : UInt64) : Bool :=
  header.extent.stop?.any fun stop => stop ≤ length

/-- Lets the section at an index pass if its contents fit. -/
def checkExtent (header : SectionHeader) (index : Nat) (length : UInt64) : Except Fault Unit :=
  if header.fits length then
    .ok ()
  else
    .error (.format (.truncated (.sectionAt index) header.offset header.size
      (header.extent.available length)))

def linked? (header : SectionHeader) (sections : List SectionHeader) : Option SectionHeader :=
  sections[header.link.toNat]?

def infoSection? (header : SectionHeader) (sections : List SectionHeader) : Option SectionHeader :=
  sections[header.info.toNat]?

open Decoder in
def decode (order : ByteOrder) : Decoder SectionHeader := do
  let name ← word order
  let type ← word order
  let flags ← xword order
  let addr ← xword order
  let offset ← xword order
  let size ← xword order
  let link ← word order
  let info ← word order
  let addralign ← xword order
  let entsize ← xword order
  return { name, type, flags, addr, offset, size, link, info, addralign, entsize }

/-- The bytes of a record in a file of the given byte order. -/
def encode (order : ByteOrder) (header : SectionHeader) : Bytes :=
  order.encode 4 header.name.toNat ++
    order.encode 4 header.type.toNat ++
    order.encode 8 header.flags.toNat ++
    order.encode 8 header.addr.toNat ++
    order.encode 8 header.offset.toNat ++
    order.encode 8 header.size.toNat ++
    order.encode 4 header.link.toNat ++
    order.encode 4 header.info.toNat ++
    order.encode 8 header.addralign.toNat ++
    order.encode 8 header.entsize.toNat

theorem fits_eq (header : SectionHeader) (length : UInt64) :
    header.fits length = header.extent.fits length := by
  unfold fits Extent.fits
  cases header.extent.stop? with
  | none => rfl
  | some stop => rfl

theorem checkExtent_eq (header : SectionHeader) (index : Nat) (length : UInt64) :
    header.checkExtent index length = header.extent.check (.sectionAt index) length := by
  rw [checkExtent, fits_eq]
  rfl

theorem length_encode (order : ByteOrder) (header : SectionHeader) :
    (header.encode order).length = byteSize := by
  simp [encode, byteSize]

open Decoder in
theorem decode_encode_append (order : ByteOrder) (header : SectionHeader) (rest : Bytes) :
    decode order (header.encode order ++ rest) = .ok (header, rest) := by
  simp only [decode, encode, List.append_assoc]
  rw [bind_of_ok (word_encode_append ..), bind_of_ok (word_encode_append ..),
    bind_of_ok (xword_encode_append ..), bind_of_ok (xword_encode_append ..),
    bind_of_ok (xword_encode_append ..), bind_of_ok (xword_encode_append ..),
    bind_of_ok (word_encode_append ..), bind_of_ok (word_encode_append ..),
    bind_of_ok (xword_encode_append ..), bind_of_ok (xword_encode_append ..)]
  rfl

end SectionHeader

end ElfInspect
