import ElfInspect.FileHeader.Basic
import ElfInspect.Source.Basic

/-!
# Reading the file header

The first step of an inspection: the header at offset 0, with its tables checked against the
length of the source.
-/

namespace ElfInspect.FileHeader

/-- What the log says about a header that was read. -/
def event (header : FileHeader) : Event :=
  .headerRead header.type header.machine header.shoff header.shnum header.shstrndx

open Inspection in
def read : Inspection FileHeader := do
  let bytes ← readAt .fileHeader ⟨0, byteSize.toUInt64⟩
  let header ← ofExcept (parse bytes)
  ofExcept (header.checkTables (← length))
  note [header.event]
  return header

end ElfInspect.FileHeader
