import ElfInspect.FileHeader.Read
import ElfInspect.Section.Table
import ElfInspect.NameTable

/-!
# Queries

The operations of an inspection as data: each query carries everything that it needs besides
the source, and its reply is what the operation gives.
-/

namespace ElfInspect

inductive Query where
  | readAt (part : Part) (extent : Extent)
  | readHeader
  | checkTables (header : FileHeader) (fileLength : UInt64)
  | readSections (header : FileHeader)
  | loadNames (header : FileHeader) (sections : List SectionHeader)
  deriving DecidableEq, Repr

inductive Reply where
  | bytes (bytes : Bytes)
  | header (header : FileHeader)
  | passed
  | sections (sections : List SectionHeader)
  | names (names : NameTable)
  deriving DecidableEq, Repr

def Query.perform : Query → Inspection Reply
  | readAt part extent => Reply.bytes <$> Inspection.readAt part extent
  | readHeader => Reply.header <$> FileHeader.read
  | checkTables header fileLength => do
    Inspection.ofExcept (header.checkTables fileLength)
    return .passed
  | readSections header => Reply.sections <$> SectionTable.read header
  | loadNames header sections => Reply.names <$> NameTable.load header sections

end ElfInspect
