import ElfInspect.CommandLine.Run
import ElfInspect.Proofs.JsonText

/-!
# What a JSON report says

The values that the grammar finds in the report of an analysis: the path, fourteen fields of
the header and eleven of each row, with their exact numbers and texts. Nothing that stands in
a path or a name changes how a report is read, and two analyses have the same report only if
they agree in all that is reported.
-/

namespace ElfInspect

namespace Report

open Json.Grammar

/-- The numbers of a header under their names, after the identification. -/
def headerNumbers (header : FileHeader) : List (String × Nat) := [
  ("e_type", header.type.toNat),
  ("e_machine", header.machine.toNat),
  ("e_version", header.version.toNat),
  ("e_entry", header.entry.toNat),
  ("e_phoff", header.phoff.toNat),
  ("e_shoff", header.shoff.toNat),
  ("e_flags", header.flags.toNat),
  ("e_ehsize", header.ehsize.toNat),
  ("e_phentsize", header.phentsize.toNat),
  ("e_phnum", header.phnum.toNat),
  ("e_shentsize", header.shentsize.toNat),
  ("e_shnum", header.shnum.toNat),
  ("e_shstrndx", header.shstrndx.toNat)]

def headerReading (header : FileHeader) : Value :=
  .object (("e_ident", .array (header.ident.toList.map fun byte => .natural byte.toNat)) ::
    (headerNumbers header).map fun entry => (entry.1, .natural entry.2))

def rowReading (row : SectionSummary) : Value := .object [
  ("index", .natural row.index),
  ("name", .string row.name),
  ("kind", .string row.kind),
  ("vma", .natural row.vma.toNat),
  ("size", .natural row.size.toNat),
  ("file_offset", .natural row.fileOffset.toNat),
  ("flags", .string row.flags),
  ("link", .natural row.link.toNat),
  ("info", .natural row.info.toNat),
  ("align", .natural row.align.toNat),
  ("entsize", .natural row.entsize.toNat)]

/-- What a report of all is to say. -/
def reading (path : String) (header : FileHeader) (rows : List SectionSummary) : Value := .object [
  ("path", .string path),
  ("header", headerReading header),
  ("sections", .array (rows.map rowReading))]

/-! ### The values that are written -/

lemma itemMeanings_map {α : Type} (f : α → Json) (items : List α) :
    Json.itemMeanings (items.map f) = items.map fun item => (f item).meaning := by
  induction items with
  | nil => rfl
  | cons item items ih => rw [List.map_cons, Json.itemMeanings, ih, List.map_cons]

lemma meaning_headerValue (header : FileHeader) :
    (headerValue header).meaning = headerReading header := by
  simp [headerValue, headerReading, headerNumbers, Json.meaning, Json.memberMeanings,
    itemMeanings_map, byteValue]

lemma meaning_summaryValue (row : SectionSummary) :
    (summaryValue row).meaning = rowReading row := by
  simp [summaryValue, rowReading, Json.meaning, Json.memberMeanings]

lemma meaning_analysisValue (analysis : Analysis) :
    (analysisValue analysis).meaning =
      reading analysis.path analysis.header analysis.sections := by
  simp [analysisValue, reading, sectionsValue, Json.meaning, Json.memberMeanings,
    itemMeanings_map, meaning_headerValue, meaning_summaryValue]

/-! ### Equal readings -/

@[simp] lemma natural_inj {m n : Nat} : Value.natural m = .natural n ↔ m = n := by
  constructor
  · intro h
    exact Int.ofNat.inj (congrArg Rat.num (Value.number.inj h))
  · rintro rfl
    rfl

lemma headerReading_inj {header header' : FileHeader} :
    headerReading header = headerReading header' ↔ header = header' := by
  constructor
  · intro h
    obtain ⟨ident, type, machine, version, entry, phoff, shoff, flags, ehsize, phentsize, phnum,
      shentsize, shnum, shstrndx⟩ := header
    obtain ⟨ident', type', machine', version', entry', phoff', shoff', flags', ehsize',
      phentsize', phnum', shentsize', shnum', shstrndx'⟩ := header'
    have hbyte : Function.Injective fun byte : UInt8 => Value.natural byte.toNat :=
      fun _ _ h => UInt8.toNat_inj.mp (natural_inj.mp h)
    simpa [headerReading, headerNumbers, List.map_inj_right hbyte, UInt16.toNat_inj,
      UInt32.toNat_inj, UInt64.toNat_inj, Vector.toList_inj] using h
  · rintro rfl
    rfl

lemma rowReading_injective : Function.Injective rowReading := by
  intro row row' h
  obtain ⟨index, name, kind, vma, size, fileOffset, flags, link, info, align, entsize⟩ := row
  obtain ⟨index', name', kind', vma', size', fileOffset', flags', link', info', align',
    entsize'⟩ := row'
  simpa [rowReading, UInt32.toNat_inj, UInt64.toNat_inj] using h

lemma reading_inj {path path' : String} {header header' : FileHeader}
    {rows rows' : List SectionSummary} :
    reading path header rows = reading path' header' rows' ↔
      path = path' ∧ header = header' ∧ rows = rows' := by
  simp [reading, headerReading_inj, List.map_inj_right rowReading_injective]

end Report

namespace CommandLine.Invocation

open Json.Grammar Report

/-- The report of an analysis is read as the path, the header and the rows, and as nothing else.
So reports are equal only if all of these are. -/
theorem means_report_iff (path : String) (noColor : Bool) (default : Paint) (analysis : Analysis) :
    let output := report { path, scope := .all, format := .json, noColor } default analysis
    let value := reading analysis.path analysis.header analysis.sections
    (∃ body, output = body ++ "\n" ∧ Reads body.toList (.value value) []) ∧
      (∀ found, Means output.toList found ↔ found = value) ∧
      ∀ (path' : String) (noColor' : Bool) (default' : Paint) (analysis' : Analysis),
        output =
            report { path := path', scope := .all, format := .json, noColor := noColor' } default'
              analysis' ↔
          analysis.path = analysis'.path ∧ analysis.header = analysis'.header ∧
            analysis.sections = analysis'.sections := by
  intro output value
  have hmeaning : (analysisValue analysis).meaning = value := meaning_analysisValue analysis
  have hreads := Json.reads_render (analysisValue analysis)
  have hmeans := Json.means_render_iff (analysisValue analysis)
  rw [hmeaning] at hreads hmeans
  refine ⟨⟨_, rfl, hreads⟩, hmeans, ?_⟩
  intro path' noColor' default' analysis'
  have hmeans' := Json.means_render_iff (analysisValue analysis')
  rw [meaning_analysisValue] at hmeans'
  constructor
  · intro houtput
    have htexts : (analysisValue analysis).render ++ "\n" =
        (analysisValue analysis').render ++ "\n" := houtput
    have hfound := (hmeans value).mpr rfl
    rw [htexts, hmeans'] at hfound
    exact reading_inj.mp hfound
  · rintro ⟨hpath, hheader, hsections⟩
    have hvalue : analysisValue analysis = analysisValue analysis' := by
      rw [analysisValue, analysisValue, hpath, hheader, hsections]
    change (analysisValue analysis).render ++ "\n" = (analysisValue analysis').render ++ "\n"
    rw [hvalue]

end CommandLine.Invocation

end ElfInspect
