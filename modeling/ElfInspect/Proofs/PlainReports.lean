import ElfInspect.Proofs.CommandGrammar
import ElfInspect.Proofs.Escapes
import ElfInspect.Proofs.Runs
import ElfInspect.Proofs.SectionColumns

/-!
# Plain and painted reports

Paint only decorates the reports. Where path and names have no escape characters, the painted
report is the plain one with escape sequences in it. Runs that write values are never painted, and
neither are those of command lines that ask for no colours.
-/

namespace ElfInspect

namespace Report

/-! ### Headers -/

lemma decorated_fieldLine {field : String × String} (hlabel : Printable field.1)
    (hvalue : Printable field.2) : Decorated fun paint => fieldLine paint field := by
  have hmargin : Unescaped "  " := by decide
  have hfilled : Unescaped (Numeral.fillRight ' ' labelWidth (field.1 ++ ":")) := by
    apply Printable.unescaped
    apply Numeral.printable_fillRight (by decide)
    exact printable_append.mpr ⟨hlabel, by decide⟩
  exact (hmargin.decorated.append (decorated_apply hfilled .cyan)).append
    hvalue.unescaped.decorated

lemma decorated_magicLine (fileHeader : FileHeader) :
    Decorated fun paint => magicLine paint fileHeader := by
  have hmargin : Unescaped "  " := by decide
  have hlabel : Unescaped "Magic:" := by decide
  have hgap : Unescaped "   " := by decide
  have hbytes := (Numeral.printable_hexBytes fileHeader.ident.toList).unescaped
  exact ((hmargin.decorated.append (decorated_apply hlabel .cyan)).append hgap.decorated).append
    hbytes.decorated

lemma decorated_header (fileHeader : FileHeader) :
    Decorated fun paint => header paint fileHeader := by
  have htitle : Unescaped "ELF Header:" := by decide
  have hlines : ∀ line ∈ (fun paint => Paint.apply paint .bold "ELF Header:") ::
      (fun paint => magicLine paint fileHeader) ::
        (headerFields fileHeader).map fun field paint => fieldLine paint field,
      Decorated line := by
    rw [List.forall_mem_cons, List.forall_mem_cons, List.forall_mem_map]
    refine ⟨decorated_apply htitle .bold, decorated_magicLine fileHeader, ?_⟩
    intro field hfield
    obtain ⟨hlabel, -, hvalue⟩ := of_mem_headerFields hfield
    exact decorated_fieldLine hlabel hvalue.printable
  have hreport := decorated_unlines hlines
  simp only [List.map_cons, List.map_map] at hreport
  exact hreport

/-! ### Sections -/

section Sections

variable {summaries : List SectionSummary}

lemma unescaped_sectionTable
    (h : ∀ summary ∈ summaries, summary.Labelled ∧ Unescaped summary.name) :
    Unescaped (sectionTable summaries) := by
  have hcells : ∀ row ∈ sectionHeading :: summaries.map sectionRow, ∀ cell ∈ row,
      ∀ char ∈ cell, char ≠ '\x1b' := by
    rw [List.forall_mem_cons, List.forall_mem_map]
    constructor
    · rw [sectionHeading, List.forall_mem_map]
      simp
    · intro summary hsummary
      obtain ⟨hlabelled, hname⟩ := h summary hsummary
      rw [sectionRow_eq, List.forall_mem_map]
      rintro text htext char hchar rfl
      rcases eq_name_or_printable_of_mem_sectionTexts hlabelled text htext with rfl | hprintable
      · exact hname hchar
      · exact hprintable.unescaped hchar
  intro hmem
  exact Columns.forall_mem_render (P := (· ≠ '\x1b')) (by decide) (by decide) hcells _ hmem rfl

/-- The paint matters to the title alone, whatever the names are. -/
lemma exists_sections_eq (summaries : List SectionSummary) :
    ∃ table, ∀ paint, sections paint summaries =
      (if summaries.isEmpty then "" else paint.apply .bold "Section Headers:" ++ "\n") ++ table := by
  cases summaries with
  | nil => exact ⟨unlines [noSections], fun _ => String.empty_append.symm⟩
  | cons summary summaries =>
    refine ⟨unlines (sectionTable (summary :: summaries) :: flagKey), fun paint => ?_⟩
    rw [sections_of_ne_nil (List.cons_ne_nil _ _), unlines_cons]
    rfl

lemma decorated_sections
    (h : ∀ summary ∈ summaries, summary.Labelled ∧ Unescaped summary.name) :
    Decorated fun paint => sections paint summaries := by
  by_cases hne : summaries = []
  · subst hne
    have hnone : Unescaped noSections := by decide
    exact decorated_unlines (List.forall_mem_singleton.mpr hnone.decorated)
  · have htitle : Unescaped "Section Headers:" := by decide
    have hlines : ∀ line ∈ (fun paint => Paint.apply paint .bold "Section Headers:") ::
        (fun _ => sectionTable summaries) :: flagKey.map fun line _ => line, Decorated line := by
      rw [List.forall_mem_cons, List.forall_mem_cons, List.forall_mem_map]
      exact ⟨decorated_apply htitle .bold, (unescaped_sectionTable h).decorated,
        fun line hline => (printable_of_mem_flagKey line hline).unescaped.decorated⟩
    have hreport := decorated_unlines hlines
    simp only [List.map_cons, List.map_map] at hreport
    simp only [sections_of_ne_nil hne]
    exact hreport

/-! ### Whole reports -/

lemma decorated_whole (h : ∀ summary ∈ summaries, summary.Labelled ∧ Unescaped summary.name)
    {path : String} (hpath : Unescaped path) (fileHeader : FileHeader) :
    Decorated fun paint => whole paint path fileHeader summaries := by
  have htitle : Unescaped "[+] Analyzing ELF file:" := by decide
  have hgap : Unescaped " " := by decide
  have hempty : Unescaped "" := by decide
  have hbreak : Unescaped (unlines [""]) := by decide
  have hlines : ∀ line ∈ [fun paint => title paint path, fun _ => ""], Decorated line := by
    rw [List.forall_mem_cons, List.forall_mem_singleton]
    exact ⟨((decorated_apply htitle .green).append hgap.decorated).append hpath.decorated,
      hempty.decorated⟩
  exact (((decorated_unlines hlines).append (decorated_header fileHeader)).append
    hbreak.decorated).append (decorated_sections h)

end Sections

end Report

namespace CommandLine

/-! ### Runs -/

/-- Both ask for the same report, whatever it is to look like. -/
structure Invocation.AsksAlike (invocation invocation' : Invocation) : Prop where
  path : invocation.path = invocation'.path
  scope : invocation.scope = invocation'.scope
  format : invocation.format = invocation'.format

section Runs

variable {files : FileSystem} {words words' : List String}
  {invocation invocation' : Invocation} {default default' : Paint}

/-- The paint does not matter to values, and nothing else does to texts. -/
lemma report_congr (h : invocation.AsksAlike invocation')
    (hpaint : invocation.format = .text →
      invocation.paint default = invocation'.paint default') (analysis : Analysis) :
    invocation.report default analysis = invocation'.report default' analysis := by
  unfold Invocation.report
  rw [← h.format, ← h.scope]
  cases hformat : invocation.format with
  | text => rw [hpaint hformat]
  | json => rfl

lemma run_congr (hparse : parse words = .ok (.inspect invocation))
    (hparse' : parse words' = .ok (.inspect invocation')) (h : invocation.AsksAlike invocation')
    (hpaint : invocation.format = .text →
      invocation.paint default = invocation'.paint default') :
    run files default words = run files default' words' := by
  rw [run_of_parse hparse, run_of_parse hparse', ← h.path]
  generalize files.openFile invocation.path = file
  have hanalyze := analyze_congr h.path file
  cases hresult : (invocation.analyze file).1 with
  | ok analysis =>
    rw [complete_of_ok hresult, complete_of_ok (hanalyze ▸ hresult), hanalyze,
      report_congr h hpaint]
  | error fault =>
    rw [complete_of_error hresult, complete_of_error (hanalyze ▸ hresult), hanalyze, h.path]

end Runs

/-! ### Command lines that ask for no colours -/

section NoColor

variable {items : List Item} {path? : Option String} {options : Options} {words : List String}

/-- Among the words of items only the option itself is spelled so. -/
lemma noColor_mem_of_mem_written (side : Side items path? options)
    (h : "--no-color" ∈ written items) : Item.noColor ∈ items := by
  obtain ⟨item, hitem, hword⟩ := List.mem_flatMap.mp h
  cases item with
  | noColor => exact hitem
  | path word =>
    cases List.mem_singleton.mp hword
    rcases (side.isPathWord _ hitem).bare with hdash | hhead
    · exact absurd hdash (by decide)
    · exact (hhead rfl).elim
  | format value joined =>
    have hother : "--no-color" ∉ (Item.format value joined).words := by
      cases value <;> cases joined <;> decide
    exact (hother hword).elim

lemma noColor_of_mem_written (side : Side items path? options)
    (h : "--no-color" ∈ written items) : options.noColor = true := by
  have hcount := List.count_pos_iff.mpr (noColor_mem_of_mem_written side h)
  rw [side.noColor] at hcount
  cases hnoColor : options.noColor with
  | true => rfl
  | false =>
    rw [hnoColor] at hcount
    cases hcount

/-- The option counts on either side of the scope. Behind two dashes it would be a path. -/
lemma noColor_of_sentence {invocation : Invocation} {before after : List String}
    (h : Sentence words (.inspect invocation)) (hwords : words = before ++ "--no-color" :: after)
    (hbefore : "--" ∉ before) : invocation.noColor = true := by
  have hmem : "--no-color" ∈ words := by
    rw [hwords]
    exact List.mem_append_right _ List.mem_cons_self
  have hclosing : ∀ {closing : List String}, Closing closing → "--no-color" ∉ closing := by
    rintro _ (_ | _) <;> decide
  cases h with
  | plain side closes =>
    rcases List.mem_append.mp hmem with hitems | hrest
    · exact noColor_of_mem_written side hitems
    · exact (hclosing closes hrest).elim
  | @named items others path scope first second closing side other closes =>
    rcases List.mem_append.mp hmem with hitems | hrest
    · rw [noColor_of_mem_written side hitems, Bool.true_or]
    rcases List.mem_cons.mp hrest with hname | hrest
    · exact absurd hname (by cases scope <;> decide)
    rcases List.mem_append.mp hrest with hothers | hrest
    · rw [noColor_of_mem_written other hothers, Bool.or_true]
    · exact (hclosing closes hrest).elim
  | @dashed items path options side =>
    have hitems : "--no-color" ∈ written items := by
      -- If the option were the path, the two dashes would stand in front of it.
      rcases List.append_eq_append_iff.mp hwords with ⟨more, rfl, hmore⟩ | ⟨more, hitems, hmore⟩
      · cases more with
        | nil => exact absurd (List.cons.inj hmore).1 (by decide)
        | cons dashes more =>
          rw [(List.cons.inj hmore).1] at hbefore
          exact (hbefore (List.mem_append_right _ List.mem_cons_self)).elim
      · cases more with
        | nil => exact absurd (List.cons.inj hmore).1 (by decide)
        | cons word more =>
          rw [hitems, (List.cons.inj hmore).1]
          exact List.mem_append_right _ List.mem_cons_self
    exact noColor_of_mem_written side hitems

end NoColor

/-- With its escape sequences deleted every painted report is the plain one, where path and names
have no escape characters; with any names the painted table is the plain one as it stands. What a
run for a value comes to does not hang on the paint, and the option for no colours makes every run
plain, whichever side of the scope it is on and whatever paint the environment calls for. -/
theorem paint_only_decorates :
    (∀ fileHeader, Bleaches fun paint => Report.header paint fileHeader) ∧
    (∀ summaries : List SectionSummary,
      (∀ summary ∈ summaries, summary.Labelled ∧ Unescaped summary.name) →
      (Bleaches fun paint => Report.sections paint summaries) ∧
        ∀ path fileHeader, Unescaped path →
          Bleaches fun paint => Report.whole paint path fileHeader summaries) ∧
    (∀ summaries : List SectionSummary, ∃ table, ∀ paint, Report.sections paint summaries =
      (if summaries.isEmpty then "" else paint.apply .bold "Section Headers:" ++ "\n") ++ table) ∧
    (∀ files words words' invocation invocation' default default',
      parse words = .ok (.inspect invocation) → parse words' = .ok (.inspect invocation') →
      invocation.AsksAlike invocation' → invocation.format = .json →
      run files default words = run files default' words') ∧
    ∀ files before after words' invocation invocation' default,
      parse (before ++ "--no-color" :: after) = .ok (.inspect invocation) → "--" ∉ before →
      parse words' = .ok (.inspect invocation') → invocation.AsksAlike invocation' →
      run files default (before ++ "--no-color" :: after) = run files .plain words' := by
  refine ⟨fun fileHeader => (Report.decorated_header fileHeader).bleaches, ?_,
    Report.exists_sections_eq, ?_, ?_⟩
  · intro summaries h
    exact ⟨(Report.decorated_sections h).bleaches,
      fun path fileHeader hpath => (Report.decorated_whole h hpath fileHeader).bleaches⟩
  · intro files words words' invocation invocation' default default' hparse hparse' h hjson
    apply run_congr hparse hparse' h
    intro htext
    cases hjson.symm.trans htext
  · intro files before after words' invocation invocation' default hparse hbefore hparse' h
    apply run_congr hparse hparse' h
    intro _
    have hsentence : Sentence (before ++ "--no-color" :: after) (.inspect invocation) :=
      sentence_of_scan (side_nil_iff.mpr ⟨rfl, rfl⟩) hparse
    unfold Invocation.paint
    rw [if_pos (noColor_of_sentence hsentence rfl hbefore), ite_self]

/-- A name and a path that look like what stands behind an escape character, and command lines for
a value and for a table. -/
theorem paint_only_decorates_bracketed :
    let names : NameTable := { bytes := [0x5b, 0x30, 0x6d, 0] }
    let summary := SectionSummary.ofHeader names 0 (Report.plainSection 0)
    let fileHeader := Analysis.selfDescribing 1
    let directory : Directory := [("a", fileHeader.encode .little)]
    summary.name = "[0m" ∧ (Bleaches fun paint => Report.sections paint [summary]) ∧
      (Bleaches fun paint => Report.whole paint "[36m" fileHeader [summary]) ∧
      run directory .ansi ["a", "header", "--format=json"] =
        run directory .plain ["--no-color", "a", "header", "--format", "json"] ∧
      run directory .ansi ["--no-color", "a", "sections"] =
        run directory .plain ["a", "sections"] ∧
      run directory .ansi ["a", "sections", "--no-color"] =
        run directory .plain ["a", "sections"] := by
  intro names summary fileHeader directory
  obtain ⟨-, htable, -, hjson, hplain⟩ := paint_only_decorates
  have hname : summary.name = "[0m" := by decide +kernel
  have hunescaped : Unescaped summary.name := by
    rw [hname]
    decide
  obtain ⟨hsections, hwhole⟩ := htable [summary] (List.forall_mem_singleton.mpr
    ⟨SectionSummary.labelled_ofHeader _ _ _, hunescaped⟩)
  refine ⟨hname, hsections, hwhole "[36m" fileHeader (by decide), ?_, ?_, ?_⟩
  · exact hjson directory _ _ _ _ .ansi .plain rfl rfl ⟨rfl, rfl, rfl⟩ rfl
  · exact hplain directory [] ["a", "sections"] _ _ _ .ansi rfl (by decide) rfl ⟨rfl, rfl, rfl⟩
  · exact hplain directory ["a", "sections"] [] _ _ _ .ansi rfl (by decide) rfl ⟨rfl, rfl, rfl⟩

end CommandLine

end ElfInspect
