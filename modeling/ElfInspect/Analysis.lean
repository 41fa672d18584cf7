import ElfInspect.FileHeader.Read
import ElfInspect.Section.Summary
import ElfInspect.Section.Table

/-!
# Analyses

The whole inspection of one file: header, section headers, name table, and a summary of each
section. It stops at the first fault and then has no result at all.
-/

namespace ElfInspect

structure Analysis where
  path : String
  header : FileHeader
  sectionHeaders : List SectionHeader
  sections : List SectionSummary
  deriving DecidableEq, Repr

namespace Analysis

open Inspection in
def inspect (path : String) : Inspection Analysis := do
  note [.analyzing (← length)]
  let header ← FileHeader.read
  let sectionHeaders ← SectionTable.read header
  let names ← NameTable.load header sectionHeaders
  note (SectionSummary.warnings names sectionHeaders)
  return { path, header, sectionHeaders, sections := SectionSummary.ofHeaders names sectionHeaders }

/-- Takes up a reader and inspects it; the log comes with the result. -/
def ofReader (reader : Reader) (path : String) : Except Fault Analysis × List Event :=
  match Source.ofReader reader with
  | .ok source =>
    let outcome := inspect path source
    (outcome.result, outcome.log)
  | .error error => (.error (.io error), [])

end Analysis

end ElfInspect
