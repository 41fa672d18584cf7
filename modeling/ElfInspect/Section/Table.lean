import ElfInspect.FileHeader.Basic
import ElfInspect.Section.Header
import ElfInspect.Source.Basic

/-!
# The section header table

The records of the table are decoded in order and each section is checked against the length
of the source. A section without bytes in the file passes whatever it states, with a warning
if its offset lies past the end.
-/

namespace ElfInspect.SectionTable

/-- The entry size that the table has to have. -/
def entrySize : UInt16 := 64

/-- The extent of the records. -/
def extent (header : FileHeader) : Extent where
  offset := header.shoff
  size := header.shnum.toUInt64 * entrySize.toUInt64

/-- Whether a section lies in the file as far as it has to. -/
def admits (length : UInt64) (sh : SectionHeader) : Bool :=
  sh.isNobits || sh.fits length

/-- The warnings for sections without bytes in the file, up to the first section that does
not fit. -/
def warnings (length : UInt64) (sections : List SectionHeader) : List Event :=
  (sections.zipIdx.takeWhile fun entry => admits length entry.1).filterMap fun (sh, index) =>
    if sh.isNobits && length < sh.offset then some (.nobitsPastEnd index sh.offset) else none

/-- Stops at the first section that does not fit. -/
def check (length : UInt64) (sections : List SectionHeader) : Except Fault Unit :=
  match sections.zipIdx.find? fun entry => !admits length entry.1 with
  | some (sh, index) => sh.checkExtent index length
  | none => .ok ()

open Inspection in
/-- The records of a table in a known byte order, checked against the length. -/
def readRecords (header : FileHeader) (order : ByteOrder) : Inspection (List SectionHeader) := do
  let bytes ← readAt .sectionHeaderTable (extent header)
  let records := (SectionHeader.decode order).many header.shnum.toNat bytes
  let (sections, _) ← ofExcept (records.mapError Fault.io)
  let length ← length
  note (warnings length sections)
  ofExcept (check length sections)
  note [.sectionsRead sections.length]
  return sections

open Inspection in
/-- The sections that a header declares. -/
def read (header : FileHeader) : Inspection (List SectionHeader) := do
  if header.shnum = 0 then
    note [.noSections]
    return []
  if header.shentsize ≠ entrySize then
    fail (.format (.badEntrySize entrySize header.shentsize))
  let some order := header.byteOrder?
    | fail (.format (.unsupportedEncoding header.encoding))
  readRecords header order

section Cases

variable {header : FileHeader}

theorem read_of_shnum_eq_zero (h : header.shnum = 0) :
    read header = (do Inspection.note [.noSections]; return []) := by
  rw [read, if_pos h]

theorem read_of_shentsize_ne (hnum : header.shnum ≠ 0) (h : header.shentsize ≠ entrySize) :
    read header = Inspection.fail (.format (.badEntrySize entrySize header.shentsize)) := by
  rw [read, if_neg hnum, if_pos h]
  rfl

theorem read_of_byteOrder?_eq_none (hnum : header.shnum ≠ 0) (hsize : header.shentsize = entrySize)
    (h : header.byteOrder? = none) :
    read header = Inspection.fail (.format (.unsupportedEncoding header.encoding)) := by
  rw [read, if_neg hnum, if_neg (not_not_intro hsize), h]

theorem read_of_byteOrder?_eq_some {order : ByteOrder} (hnum : header.shnum ≠ 0)
    (hsize : header.shentsize = entrySize) (h : header.byteOrder? = some order) :
    read header = readRecords header order := by
  rw [read, if_neg hnum, if_neg (not_not_intro hsize), h]

end Cases

end ElfInspect.SectionTable
