import ElfInspect.Byte.Decoder
import ElfInspect.Byte.Extent

/-!
# File headers

The 64 bytes at the front of a 64-bit object file: sixteen identification bytes, then
thirteen fields in the byte order that the identification declares.
-/

namespace ElfInspect

structure FileHeader where
  ident : Vector UInt8 16
  type : UInt16
  machine : UInt16
  version : UInt32
  entry : UInt64
  phoff : UInt64
  shoff : UInt64
  flags : UInt32
  ehsize : UInt16
  phentsize : UInt16
  phnum : UInt16
  shentsize : UInt16
  shnum : UInt16
  shstrndx : UInt16
  deriving DecidableEq, Repr

namespace FileHeader

def byteSize : Nat := 64

def elfMagic : Vector UInt8 4 := #v[0x7f, 0x45, 0x4c, 0x46]

def class64 : UInt8 := 2

def executableType : UInt16 := 2

def magic (header : FileHeader) : Vector UInt8 4 :=
  #v[header.ident[0], header.ident[1], header.ident[2], header.ident[3]]

def classCode (header : FileHeader) : UInt8 := header.ident[4]

def encoding (header : FileHeader) : UInt8 := header.ident[5]

def identVersion (header : FileHeader) : UInt8 := header.ident[6]

def osAbi (header : FileHeader) : UInt8 := header.ident[7]

def abiVersion (header : FileHeader) : UInt8 := header.ident[8]

def byteOrder? (header : FileHeader) : Option ByteOrder :=
  ByteOrder.ofCode? header.encoding

def isExecutable (header : FileHeader) : Bool :=
  header.type = executableType

/-- The extent of the program header table. The product of two half words is a word. -/
def programTable (header : FileHeader) : Extent where
  offset := header.phoff
  size := header.phnum.toUInt64 * header.phentsize.toUInt64

/-- The extent of the section header table by the entry size that the header states. -/
def sectionTable (header : FileHeader) : Extent where
  offset := header.shoff
  size := header.shnum.toUInt64 * header.shentsize.toUInt64

open Decoder in
/-- The fields after the identification. -/
def decodeFields (ident : Vector UInt8 16) (order : ByteOrder) : Decoder FileHeader := do
  let type ← half order
  let machine ← half order
  let version ← word order
  let entry ← xword order
  let phoff ← xword order
  let shoff ← xword order
  let flags ← word order
  let ehsize ← half order
  let phentsize ← half order
  let phnum ← half order
  let shentsize ← half order
  let shnum ← half order
  let shstrndx ← half order
  return {
    ident, type, machine, version, entry, phoff, shoff, flags, ehsize, phentsize, phnum,
    shentsize, shnum, shstrndx }

def encodeFields (order : ByteOrder) (header : FileHeader) : Bytes :=
  order.encode 2 header.type.toNat ++
    order.encode 2 header.machine.toNat ++
    order.encode 4 header.version.toNat ++
    order.encode 8 header.entry.toNat ++
    order.encode 8 header.phoff.toNat ++
    order.encode 8 header.shoff.toNat ++
    order.encode 4 header.flags.toNat ++
    order.encode 2 header.ehsize.toNat ++
    order.encode 2 header.phentsize.toNat ++
    order.encode 2 header.phnum.toNat ++
    order.encode 2 header.shentsize.toNat ++
    order.encode 2 header.shnum.toNat ++
    order.encode 2 header.shstrndx.toNat

/-- The bytes of a header in a file of the given byte order. -/
def encode (order : ByteOrder) (header : FileHeader) : Bytes :=
  header.ident.toList ++ header.encodeFields order

theorem length_encode (order : ByteOrder) (header : FileHeader) :
    (header.encode order).length = byteSize := by
  simp [encode, encodeFields, byteSize]

open Decoder in
theorem decodeFields_encodeFields_append (order : ByteOrder) (header : FileHeader)
    (rest : Bytes) :
    decodeFields header.ident order (header.encodeFields order ++ rest) = .ok (header, rest) := by
  simp only [decodeFields, encodeFields, List.append_assoc]
  rw [bind_of_ok (half_encode_append ..), bind_of_ok (half_encode_append ..),
    bind_of_ok (word_encode_append ..), bind_of_ok (xword_encode_append ..),
    bind_of_ok (xword_encode_append ..), bind_of_ok (xword_encode_append ..),
    bind_of_ok (word_encode_append ..), bind_of_ok (half_encode_append ..),
    bind_of_ok (half_encode_append ..), bind_of_ok (half_encode_append ..),
    bind_of_ok (half_encode_append ..), bind_of_ok (half_encode_append ..),
    bind_of_ok (half_encode_append ..)]
  rfl

/-- The order that an identification declares, if it is that of a 64-bit object file. -/
def identify (ident : Vector UInt8 16) : Except FormatError ByteOrder := do
  let found := #v[ident[0], ident[1], ident[2], ident[3]]
  if found ≠ elfMagic then
    throw (.badMagic found)
  if ident[4] ≠ class64 then
    throw (.unsupportedClass ident[4])
  match ByteOrder.ofCode? ident[5] with
  | some order => return order
  | none => throw (.unsupportedEncoding ident[5])

def parse (bytes : Bytes) : Except Fault FileHeader := do
  if bytes.length < byteSize then
    throw (.format (.truncated .fileHeader 0 byteSize.toUInt64 bytes.length.toUInt64))
  let (ident, rest) ← (Decoder.block 16 bytes).mapError Fault.io
  let order ← (identify ident).mapError Fault.format
  let (header, _) ← (decodeFields ident order rest).mapError Fault.io
  return header

/-- Lets the extent of a table pass if it ends within a file of `fileLength` bytes. -/
def checkExtent (part : Part) (extent : Extent) (fileLength : UInt64) : Except Fault Unit :=
  let refusal := Fault.format
    (.truncated part extent.offset extent.size (extent.available fileLength))
  match extent.stop? with
  | some stop => if stop ≤ fileLength then .ok () else .error refusal
  | none => .error refusal

theorem checkExtent_eq (part : Part) (extent : Extent) (fileLength : UInt64) :
    checkExtent part extent fileLength = extent.check part fileLength := by
  unfold checkExtent Extent.check Extent.fits
  cases extent.stop? with
  | none => rfl
  | some stop => simp only [decide_eq_true_eq]

/-- Checks that both tables, as far as the header declares them, lie in a file of
`fileLength` bytes. A program header table is declared by its number of entries, a section
header table by its offset. -/
def checkTables (header : FileHeader) (fileLength : UInt64) : Except Fault Unit := do
  if header.phnum ≠ 0 then
    checkExtent .programHeaderTable header.programTable fileLength
  if header.shoff ≠ 0 then
    checkExtent .sectionHeaderTable header.sectionTable fileLength

end FileHeader

end ElfInspect
