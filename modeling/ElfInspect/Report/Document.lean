import ElfInspect.Analysis
import ElfInspect.Json.Basic

/-!
# Reports as JSON

The JSON values of a header, of section summaries, and of both with the path. Numbers are
plain JSON numbers whatever their size.
-/

namespace ElfInspect.Report

open Json

def byteValue (byte : UInt8) : Json :=
  number byte.toNat

def headerValue (header : FileHeader) : Json := object [
  ("e_ident", array (header.ident.toList.map byteValue)),
  ("e_type", number header.type.toNat),
  ("e_machine", number header.machine.toNat),
  ("e_version", number header.version.toNat),
  ("e_entry", number header.entry.toNat),
  ("e_phoff", number header.phoff.toNat),
  ("e_shoff", number header.shoff.toNat),
  ("e_flags", number header.flags.toNat),
  ("e_ehsize", number header.ehsize.toNat),
  ("e_phentsize", number header.phentsize.toNat),
  ("e_phnum", number header.phnum.toNat),
  ("e_shentsize", number header.shentsize.toNat),
  ("e_shnum", number header.shnum.toNat),
  ("e_shstrndx", number header.shstrndx.toNat)]

def summaryValue (summary : SectionSummary) : Json := object [
  ("index", number summary.index),
  ("name", string summary.name),
  ("kind", string summary.kind),
  ("vma", number summary.vma.toNat),
  ("size", number summary.size.toNat),
  ("file_offset", number summary.fileOffset.toNat),
  ("flags", string summary.flags),
  ("link", number summary.link.toNat),
  ("info", number summary.info.toNat),
  ("align", number summary.align.toNat),
  ("entsize", number summary.entsize.toNat)]

def sectionsValue (summaries : List SectionSummary) : Json :=
  array (summaries.map summaryValue)

def analysisValue (analysis : Analysis) : Json := object [
  ("path", string analysis.path),
  ("header", headerValue analysis.header),
  ("sections", sectionsValue analysis.sections)]

end ElfInspect.Report
