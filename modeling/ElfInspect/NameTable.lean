import ElfInspect.FileHeader.Basic
import ElfInspect.Section.Header
import ElfInspect.Source.Basic
import ElfInspect.Text.Utf8

/-!
# Name tables

The contents of the section that holds the names of all sections. A name is given by the
offset of its first byte and runs up to the next zero byte or the end of the table.
-/

namespace ElfInspect

structure NameTable where
  bytes : Bytes := []
  deriving DecidableEq, Repr

namespace NameTable

def size (table : NameTable) : Nat := table.bytes.length

def isEmpty (table : NameTable) : Bool := table.bytes.isEmpty

/-- The bytes of the name at an offset; there are none past the end. -/
def run (table : NameTable) (offset : Nat) : Bytes :=
  (table.bytes.drop offset).takeWhile (· ≠ 0)

def resolve (table : NameTable) (offset : UInt32) : String :=
  Utf8.decode (table.run offset.toNat)

def isOutside (table : NameTable) (offset : UInt32) : Bool :=
  table.size ≤ offset.toNat

open Inspection in
/-- The contents of the section at the index that the header states. -/
def load (header : FileHeader) (sections : List SectionHeader) : Inspection NameTable := do
  let index := header.shstrndx.toNat
  let some sh := sections[index]?
    | fail (.format (.badReference .nameTable index sections.length))
  let bytes ← readAt .nameTable sh.extent
  note [.nameTableLoaded index bytes.length]
  return { bytes }

theorem load_of_getElem?_eq_none {header : FileHeader} {sections : List SectionHeader}
    (h : sections[header.shstrndx.toNat]? = none) :
    load header sections = Inspection.fail
      (.format (.badReference .nameTable header.shstrndx.toNat sections.length)) := by
  rw [load, h]

theorem load_of_getElem?_eq_some {header : FileHeader} {sections : List SectionHeader}
    {sh : SectionHeader} (h : sections[header.shstrndx.toNat]? = some sh) :
    load header sections = (do
      let bytes ← Inspection.readAt .nameTable sh.extent
      Inspection.note [.nameTableLoaded header.shstrndx.toNat bytes.length]
      return { bytes }) := by
  rw [load, h]

theorem run_of_size_le {table : NameTable} {offset : Nat} (h : table.size ≤ offset) :
    table.run offset = [] := by
  simp [run, List.drop_eq_nil_of_le h]

theorem resolve_of_isOutside {table : NameTable} {offset : UInt32}
    (h : table.isOutside offset = true) : table.resolve offset = "" := by
  rw [resolve, run_of_size_le (by simpa [isOutside] using h), Utf8.decode_nil]

end NameTable

end ElfInspect
