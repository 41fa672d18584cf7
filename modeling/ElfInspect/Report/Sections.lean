import ElfInspect.Report.Header
import ElfInspect.Section.Summary
import ElfInspect.Text.Columns

/-!
# The section report

Section summaries as text: a title, a table with a row for each section in table order, and
the key to the flag letters.
-/

namespace ElfInspect.Report

open Numeral

def sectionHeading : Columns.Row :=
  ["[Nr]", "Name", "Type", "Size", "Address", "Offset", "Flags"].map String.toList

/-- The cells of a section. Addresses and offsets have all their sixteen digits. -/
def sectionRow (summary : SectionSummary) : Columns.Row :=
  ["[" ++ fillLeft ' ' 2 (decimal summary.index) ++ "]",
    summary.name,
    summary.kind,
    decimal summary.size.toNat,
    paddedHex 16 summary.vma.toNat,
    paddedHex 16 summary.fileOffset.toNat,
    summary.flags].map String.toList

def sectionTable (sections : List SectionSummary) : String :=
  Columns.render sectionHeading (sections.map sectionRow)

def flagKey : List String := [
  "Key to Flags:",
  "  W (write), A (alloc), X (execute), M (merge), S (strings), I (info),",
  "  L (link order), O (extra OS processing required), G (group), T (TLS), E (exclude)"]

def noSections : String := "There are no sections in this file."

def sections (paint : Paint) (sections : List SectionSummary) : String :=
  if sections.isEmpty then unlines [noSections]
  else unlines (paint.apply .bold "Section Headers:" :: sectionTable sections :: flagKey)

end ElfInspect.Report
