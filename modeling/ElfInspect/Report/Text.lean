import ElfInspect.Analysis
import ElfInspect.Report.Sections

/-!
# The whole report as text

A title with the path, then the header report and the section report, with an empty line
before each.
-/

namespace ElfInspect.Report

def title (paint : Paint) (path : String) : String :=
  paint.apply .green "[+] Analyzing ELF file:" ++ " " ++ path

def whole (paint : Paint) (path : String) (fileHeader : FileHeader)
    (summaries : List SectionSummary) : String :=
  unlines [title paint path, ""] ++ header paint fileHeader ++ unlines [""] ++
    sections paint summaries

end ElfInspect.Report
