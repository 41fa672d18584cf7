import ElfInspect.Proofs.Assembly
import ElfInspect.Proofs.Utf8

/-!
# Drafts

What can be chosen about a file, and the file that comes of it: the contents of the sections stand
one after another between the header and the section header table, and one of them is the table
of all names.
-/

namespace ElfInspect

/-- What can be chosen about a section. Its record follows from the place of its contents. -/
structure SectionDraft where
  name : String
  type : UInt32
  flags : UInt64
  addr : UInt64
  link : UInt32
  info : UInt32
  addralign : UInt64
  entsize : UInt64
  payload : Bytes

/-- The entry of a section in the name table. -/
def SectionDraft.nameEntry (draft : SectionDraft) : Bytes :=
  Utf8.encode draft.name ++ [0]

/-- What can be chosen about a file without program headers. -/
structure ImageDraft where
  order : ByteOrder
  identRest : Vector UInt8 10
  type : UInt16
  machine : UInt16
  version : UInt32
  entry : UInt64
  phoff : UInt64
  flags : UInt32
  ehsize : UInt16
  phentsize : UInt16
  sections : List SectionDraft
  /-- The index of the section whose contents are the name table. -/
  nameIndex : Nat

namespace ImageDraft

def nameBytes (image : ImageDraft) : Bytes :=
  0 :: image.sections.flatMap SectionDraft.nameEntry

def payload (image : ImageDraft) : Bytes :=
  image.sections.flatMap SectionDraft.payload

/-- Where the name of a section starts in the name table. -/
def nameStart (image : ImageDraft) (index : Nat) : Nat :=
  1 + ((image.sections.take index).flatMap SectionDraft.nameEntry).length

/-- Where the contents of a section start in the file. -/
def payloadStart (image : ImageDraft) (index : Nat) : Nat :=
  64 + ((image.sections.take index).flatMap SectionDraft.payload).length

def header (image : ImageDraft) : FileHeader where
  ident := (#v[0x7f, 0x45, 0x4c, 0x46, 2, image.order.code] ++ image.identRest : Vector UInt8 16)
  type := image.type
  machine := image.machine
  version := image.version
  entry := image.entry
  phoff := image.phoff
  shoff := (64 + image.payload.length).toUInt64
  flags := image.flags
  ehsize := image.ehsize
  phentsize := image.phentsize
  phnum := 0
  shentsize := 64
  shnum := image.sections.length.toUInt16
  shstrndx := image.nameIndex.toUInt16

def record (image : ImageDraft) (index : Nat) (draft : SectionDraft) : SectionHeader where
  name := (image.nameStart index).toUInt32
  type := draft.type
  flags := draft.flags
  addr := draft.addr
  offset := (image.payloadStart index).toUInt64
  size := draft.payload.length.toUInt64
  link := draft.link
  info := draft.info
  addralign := draft.addralign
  entsize := draft.entsize

def records (image : ImageDraft) : List SectionHeader :=
  image.sections.zipIdx.map fun (draft, index) => image.record index draft

def row (image : ImageDraft) (index : Nat) (draft : SectionDraft) : SectionSummary where
  index
  name := draft.name
  kind := SectionHeader.typeLabel draft.type
  vma := draft.addr
  size := draft.payload.length.toUInt64
  fileOffset := (image.payloadStart index).toUInt64
  flags := SectionHeader.flagLetters draft.flags
  link := draft.link
  info := draft.info
  align := draft.addralign
  entsize := draft.entsize

def rows (image : ImageDraft) : List SectionSummary :=
  image.sections.zipIdx.map fun (draft, index) => image.row index draft

def bytes (image : ImageDraft) : Bytes :=
  Layout.assemble image.order image.header image.payload image.records

lemma length_records (image : ImageDraft) : image.records.length = image.sections.length := by
  rw [records, List.length_map, List.length_zipIdx]

lemma length_bytes (image : ImageDraft) :
    image.bytes.length = 64 + image.payload.length + 64 * image.sections.length := by
  rw [bytes, Layout.length_assemble, length_records]

end ImageDraft

/-- A draft that can be written: its counts and positions are within their fields, and its
name table holds the names of all sections. -/
structure Image extends ImageDraft where
  count_pos : 1 ≤ sections.length
  count_le : sections.length ≤ 65535
  names : ∀ draft ∈ sections, '\x00' ∉ draft.name.toList
  nameTable : sections[nameIndex]?.map SectionDraft.payload = some toImageDraft.nameBytes
  nameBytes_lt : toImageDraft.nameBytes.length < UInt32.size
  bytes_lt : toImageDraft.bytes.length < UInt64.size

/-- A big-endian file of two sections, the second one with the names. -/
def Image.twoSections : Image where
  order := .big
  identRest := #v[1, 0, 0, 0, 0, 0, 0, 0, 0, 0]
  type := 1
  machine := 22
  version := 1
  entry := 0
  phoff := 0
  flags := 0
  ehsize := 64
  phentsize := 0
  sections := [
    { name := "ä", type := 1, flags := 6, addr := 0, link := 0, info := 0, addralign := 4,
      entsize := 0, payload := [0x07, 0xfe] },
    { name := ".n", type := 3, flags := 0, addr := 0, link := 0, info := 0, addralign := 1,
      entsize := 0, payload := [0x00, 0xc3, 0xa4, 0x00, 0x2e, 0x6e, 0x00] }]
  nameIndex := 1
  count_pos := by decide
  count_le := by decide
  names := by decide
  nameTable := by decide
  nameBytes_lt := by decide
  bytes_lt := by
    rw [ImageDraft.length_bytes]
    decide

end ElfInspect
