import ElfInspect.CommandLine.Run
import ElfInspect.Proofs.Diagnoses
import ElfInspect.Proofs.Drafts
import ElfInspect.Proofs.JsonText
import ElfInspect.Proofs.Scopes

/-!
# Runs

What a command line comes to depends on what the system opens at the path that it names. If the
file there is accepted, every command line for it succeeds and the reports of its scopes are parts
of the whole report; if not, every one of them fails with the same line and writes nothing else.
-/

namespace ElfInspect

namespace CommandLine

variable {files : FileSystem} {path : String} {analysis : Analysis} {fault : Fault}
  {invocation invocation' : Invocation}

/-! ### The fate of a path -/

/-- The file at the path can be opened, and its analysis succeeds. -/
def Accepts (files : FileSystem) (path : String) (analysis : Analysis) : Prop :=
  ∃ reader, files.openFile path = .ok reader ∧ (Analysis.ofReader reader path).1 = .ok analysis

/-- The file at the path cannot be opened, or its analysis stops. -/
def Refuses (files : FileSystem) (path : String) (fault : Fault) : Prop :=
  (∃ error, files.openFile path = .error error ∧ fault = .io error) ∨
    ∃ reader, files.openFile path = .ok reader ∧
      (Analysis.ofReader reader path).1 = .error fault

lemma accepts_or_refuses (files : FileSystem) (path : String) :
    (∃ analysis, Accepts files path analysis) ∨ ∃ fault, Refuses files path fault := by
  cases hopen : files.openFile path with
  | error error => exact .inr ⟨_, .inl ⟨error, hopen, rfl⟩⟩
  | ok reader =>
    cases hresult : (Analysis.ofReader reader path).1 with
    | error fault => exact .inr ⟨fault, .inr ⟨reader, hopen, hresult⟩⟩
    | ok analysis => exact .inl ⟨analysis, reader, hopen, hresult⟩

lemma not_accepts_of_refuses (h : Refuses files path fault) :
    ¬Accepts files path analysis := by
  rintro ⟨reader, hopen, hresult⟩
  rcases h with ⟨error, hopen', -⟩ | ⟨reader', hopen', hresult'⟩
  · cases hopen.symm.trans hopen'
  · cases hopen.symm.trans hopen'
    cases hresult.symm.trans hresult'

lemma Refuses.unique {fault' : Fault} (h : Refuses files path fault)
    (h' : Refuses files path fault') : fault = fault' := by
  rcases h with ⟨error, hopen, rfl⟩ | ⟨reader, hopen, hresult⟩
  · rcases h' with ⟨error', hopen', rfl⟩ | ⟨reader', hopen', -⟩
    · cases hopen.symm.trans hopen'
      rfl
    · cases hopen.symm.trans hopen'
  · rcases h' with ⟨error', hopen', -⟩ | ⟨reader', hopen', hresult'⟩
    · cases hopen.symm.trans hopen'
    · cases hopen.symm.trans hopen'
      cases hresult.symm.trans hresult'
      rfl

/-- The system speaks for itself, and the analysis for the bytes. -/
lemma oneLine_of_refuses (hfiles : files.SpeaksInLines) (h : Refuses files path fault) :
    OneLine fault.message := by
  rcases h with ⟨error, hopen, rfl⟩ | ⟨reader, hopen, hresult⟩
  · exact hfiles.opening hopen
  · exact (Analysis.explained_of_ofReader hresult).oneLine_message fun _ => hfiles.reading hopen

/-- The line that a refusal is reported with. -/
def refusal (path : String) (fault : Fault) : String :=
  "error: cannot analyze " ++ path ++ ": " ++ fault.message

lemma oneLine_refusal (hfiles : files.SpeaksInLines) (hpath : OneLine path)
    (h : Refuses files path fault) : OneLine (refusal path fault) := by
  have hmessage := oneLine_of_refuses hfiles h
  unfold refusal
  simp only [oneLine_append, hpath, hmessage, and_true]
  simp [OneLine]

lemma analyze_congr (h : invocation.path = invocation'.path) (file : Except IoError Reader) :
    invocation.analyze file = invocation'.analyze file := by
  unfold Invocation.analyze
  rw [h]

lemma analyze_ok (invocation : Invocation) (reader : Reader) :
    (invocation.analyze (.ok reader)).1 = (Analysis.ofReader reader invocation.path).1 := by
  unfold Invocation.analyze
  dsimp only
  generalize Analysis.ofReader reader invocation.path = outcome
  obtain ⟨fault | analysis, log⟩ := outcome
  · rfl
  · rfl

lemma analyze_of_accepts (h : Accepts files invocation.path analysis) :
    (invocation.analyze (files.openFile invocation.path)).1 = .ok analysis := by
  obtain ⟨reader, hopen, hresult⟩ := h
  rw [hopen, analyze_ok, hresult]

lemma analyze_of_refuses (h : Refuses files invocation.path fault) :
    (invocation.analyze (files.openFile invocation.path)).1 = .error fault := by
  rcases h with ⟨error, hopen, rfl⟩ | ⟨reader, hopen, hresult⟩
  · rw [hopen]
    rfl
  · rw [hopen, analyze_ok, hresult]

section Completions

variable {file : Except IoError Reader} {default default' : Paint}

lemma complete_of_ok (h : (invocation.analyze file).1 = .ok analysis) :
    invocation.complete default file =
      { status := 0, output := invocation.report default analysis, errors := "",
        log := (invocation.analyze file).2 } := by
  unfold Invocation.complete
  generalize invocation.analyze file = outcome at h ⊢
  obtain ⟨result, log⟩ := outcome
  simp only at h
  subst h
  rfl

lemma complete_of_error (h : (invocation.analyze file).1 = .error fault) :
    invocation.complete default file =
      { status := 1, output := "", errors := refusal invocation.path fault ++ "\n",
        log := (invocation.analyze file).2 } := by
  unfold Invocation.complete
  generalize invocation.analyze file = outcome at h ⊢
  obtain ⟨result, log⟩ := outcome
  simp only at h
  subst h
  rfl

/-- How the reports are to look does not matter to what else is seen of a run. -/
lemma complete_alike (h : invocation'.path = invocation.path) :
    (invocation'.complete default' file).status = (invocation.complete default file).status ∧
      (invocation'.complete default' file).errors = (invocation.complete default file).errors ∧
      (invocation'.complete default' file).log = (invocation.complete default file).log := by
  have hanalyze := analyze_congr h file
  cases hresult : (invocation.analyze file).1 with
  | ok analysis =>
    rw [complete_of_ok hresult, complete_of_ok (hanalyze ▸ hresult), hanalyze]
    exact ⟨rfl, rfl, rfl⟩
  | error fault =>
    rw [complete_of_error hresult, complete_of_error (hanalyze ▸ hresult), hanalyze, h]
    exact ⟨rfl, rfl, rfl⟩

end Completions

lemma run_of_parse {words : List String} (h : parse words = .ok (.inspect invocation))
    (default : Paint) :
    run files default words =
      .ok (invocation.complete default (files.openFile invocation.path)) := by
  rw [run, h]

/-! ### Outputs -/

/-- A command line that asks for the report of a scope, and gets it in a paint. -/
def Prints (files : FileSystem) (path : String) (scope : Scope) (format : Format)
    (paint : Paint) (output : String) : Prop :=
  ∃ words default noColor completion,
    parse words = .ok (.inspect { path, scope, format, noColor }) ∧
      (if noColor then Paint.plain else default) = paint ∧
      run files default words = .ok completion ∧ completion.status = 0 ∧
      completion.output = output

lemma prints_of_accepts {words : List String} {scope : Scope} {format : Format} {noColor : Bool}
    {default paint : Paint}
    (hparse : parse words = .ok (.inspect { path, scope, format, noColor }))
    (hpaint : (if noColor then Paint.plain else default) = paint)
    (h : Accepts files path analysis) :
    Prints files path scope format paint
      (Invocation.report { path, scope, format, noColor } default analysis) := by
  refine ⟨words, default, noColor, _, hparse, hpaint, run_of_parse hparse default, ?_⟩
  rw [complete_of_ok (analyze_of_accepts h)]
  exact ⟨rfl, rfl⟩

lemma Prints.accepts {scope : Scope} {format : Format} {paint : Paint} {output : String}
    (h : Prints files path scope format paint output) :
    ∃ analysis, Accepts files path analysis := by
  obtain ⟨words, default, noColor, completion, hparse, -, hrun, hstatus, -⟩ := h
  rw [run_of_parse hparse] at hrun
  cases hrun
  rcases accepts_or_refuses files path with hanalysis | ⟨fault, hfault⟩
  · exact hanalysis
  · rw [complete_of_error (analyze_of_refuses hfault)] at hstatus
    cases hstatus

lemma Prints.eq_report {scope : Scope} {format : Format} {paint : Paint} {output : String}
    (h : Prints files path scope format paint output)
    (haccepts : Accepts files path analysis) :
    output = Invocation.report { path, scope, format, noColor := false } paint analysis := by
  obtain ⟨words, default, noColor, completion, hparse, hpaint, hrun, -, rfl⟩ := h
  rw [run_of_parse hparse] at hrun
  cases hrun
  rw [complete_of_ok (analyze_of_accepts haccepts), ← hpaint]
  rfl

/-- The whole text is the title, the text of the header and that of the sections, with an empty
line before each of them. -/
def TextFits (files : FileSystem) (path : String) : Prop :=
  ∀ paint whole header sections, Prints files path .all .text paint whole →
    Prints files path .header .text paint header →
    Prints files path .sections .text paint sections →
    whole = paint.apply .green "[+] Analyzing ELF file:" ++ " " ++ path ++ "\n" ++ "\n" ++
      header ++ "\n" ++ sections

/-- The whole value holds the path and, moved by two blanks, the values of header and sections. -/
def JsonFits (files : FileSystem) (path : String) : Prop :=
  ∀ paint paint' paint'' whole header sections, Prints files path .all .json paint whole →
    Prints files path .header .json paint' header →
    Prints files path .sections .json paint'' sections →
    ∃ value value', header = value ++ "\n" ∧ sections = value' ++ "\n" ∧
      whole = "\x7b\n  \"path\": " ++ Json.quote path ++ ",\n  \"header\": " ++ Json.nested value ++
        ",\n  \"sections\": " ++ Json.nested value' ++ "\n\x7d\n"

lemma whole_eq (paint : Paint) (path : String) (header : FileHeader)
    (sections : List SectionSummary) :
    Report.whole paint path header sections =
      paint.apply .green "[+] Analyzing ELF file:" ++ " " ++ path ++ "\n" ++ "\n" ++
        Report.header paint header ++ "\n" ++ Report.sections paint sections := by
  simp [Report.whole, Report.title, Report.unlines, String.join, String.append_assoc]

theorem textFits (files : FileSystem) (path : String) : TextFits files path := by
  intro paint whole header sections hwhole hheader hsections
  obtain ⟨analysis, haccepts⟩ := hwhole.accepts
  obtain rfl := hwhole.eq_report haccepts
  obtain rfl := hheader.eq_report haccepts
  obtain rfl := hsections.eq_report haccepts
  obtain ⟨reader, -, hresult⟩ := haccepts
  have hpath := Analysis.path_of_ofReader hresult
  change Report.whole paint analysis.path analysis.header analysis.sections = _
  rw [whole_eq, hpath]
  rfl

/-- The whole value is written around the other two. -/
lemma render_analysisValue (analysis : Analysis) :
    (Report.analysisValue analysis).render =
      "\x7b\n  \"path\": " ++ Json.quote analysis.path ++ ",\n  \"header\": " ++
        Json.nested (Report.headerValue analysis.header).render ++ ",\n  \"sections\": " ++
        Json.nested (Report.sectionsValue analysis.sections).render ++ "\n\x7d" := by
  apply String.toList_injective
  have hkeys : Json.quote "path" = "\"path\"" ∧ Json.quote "header" = "\"header\"" ∧
      Json.quote "sections" = "\"sections\"" := by
    decide
  obtain ⟨hpath, hheader, hsections⟩ := hkeys
  rw [Json.toList_render, Report.analysisValue, Json.lines, Json.memberBlocks, Json.memberBlocks,
    Json.memberBlocks, Json.memberBlocks, Json.flow_enclose _ _ _ (Json.startWith_ne_nil _),
    Json.flow_separate _ (Json.startWith_ne_nil _), Json.flow_separate _ (Json.startWith_ne_nil _),
    Json.separate, Json.flow_startWith, Json.flow_startWith, Json.flow_startWith, Json.lines,
    Json.flow_singleton, hpath, hheader, hsections]
  simp [Json.toList_nested_render]

theorem jsonFits (files : FileSystem) (path : String) : JsonFits files path := by
  intro paint paint' paint'' whole header sections hwhole hheader hsections
  obtain ⟨analysis, haccepts⟩ := hwhole.accepts
  obtain rfl := hwhole.eq_report haccepts
  obtain rfl := hheader.eq_report haccepts
  obtain rfl := hsections.eq_report haccepts
  obtain ⟨reader, -, hresult⟩ := haccepts
  have hpath := Analysis.path_of_ofReader hresult
  refine ⟨_, _, rfl, rfl, ?_⟩
  change (Report.analysisValue analysis).render ++ "\n" = _
  rw [render_analysisValue, hpath]
  apply String.toList_injective
  simp [String.toList_append]

/-- What a command line for a path comes to. Every other command line for the path shares its
fate. It succeeds exactly if the file at the path is accepted, and else it writes an error and
nothing more: one line, as long as the path and the system keep to single lines themselves. The
reports of header and sections make up the whole one, and the whole one is what a command line
without a scope asks for. -/
theorem run_inspect {words : List String} {invocation : Invocation}
    (hparse : parse words = .ok (.inspect invocation)) (files : FileSystem) (default : Paint) :
    ∃ completion, run files default words = .ok completion ∧
      (∀ words' default' invocation', parse words' = .ok (.inspect invocation') →
        invocation'.path = invocation.path →
        ∃ completion', run files default' words' = .ok completion' ∧
          completion'.status = completion.status ∧ completion'.errors = completion.errors ∧
          completion'.log = completion.log) ∧
      (completion.status = 0 ∧ completion.errors = "" ↔
        ∃ analysis, Accepts files invocation.path analysis) ∧
      ((¬∃ analysis, Accepts files invocation.path analysis) →
        completion.status = 1 ∧ completion.output = "" ∧
          ∃ fault line, Refuses files invocation.path fault ∧
            line = "error: cannot analyze " ++ invocation.path ++ ": " ++ fault.message ∧
            completion.errors = line ++ "\n" ∧
            (files.SpeaksInLines → OneLine invocation.path → OneLine line)) ∧
      TextFits files invocation.path ∧ JsonFits files invocation.path ∧
      (∀ before after invocation', words = before ++ after →
        parse (before ++ "all" :: after) = .ok (.inspect invocation') →
        run files default (before ++ "all" :: after) = .ok completion) ∧
      ((∀ word ∈ words, word ≠ "--" ∧ Scope.ofName? word = none) →
        run files default (words ++ ["all"]) = .ok completion) := by
  refine ⟨_, run_of_parse hparse default, ?_, ?_, ?_, textFits files _,
    jsonFits files _, ?_, ?_⟩
  · intro words' default' invocation' hparse' hpath
    refine ⟨_, run_of_parse hparse' default', ?_⟩
    rw [hpath]
    exact complete_alike hpath
  · rcases accepts_or_refuses files invocation.path with
      ⟨analysis, hanalysis⟩ | ⟨fault, hfault⟩
    · rw [complete_of_ok (analyze_of_accepts hanalysis)]
      exact iff_of_true ⟨rfl, rfl⟩ ⟨analysis, hanalysis⟩
    · rw [complete_of_error (analyze_of_refuses hfault)]
      apply iff_of_false
      · exact fun h => Nat.one_ne_zero h.1
      · rintro ⟨analysis, hanalysis⟩
        exact not_accepts_of_refuses hfault hanalysis
  · intro hnone
    obtain ⟨fault, hfault⟩ :=
      (accepts_or_refuses files invocation.path).resolve_left hnone
    rw [complete_of_error (analyze_of_refuses hfault)]
    exact ⟨rfl, rfl, fault, refusal invocation.path fault, hfault, rfl, rfl,
      fun hfiles hpath => oneLine_refusal hfiles hpath hfault⟩
  · rintro before after invocation' rfl hparse'
    rw [run_of_parse hparse', scan_insert_unique before after hparse hparse']
  · intro hwords
    exact run_of_parse (scan_append_allWord words hwords hparse) default

/-- A directory with one file, on a system that opens the directory too but does not read it. -/
def oneFile : FileSystem where
  openFile path :=
    if path = "." then
      .ok {
        content := []
        reportedLength := 0x7fffffffffffffff
        readFault? := some 0
        readError := .other "Is a directory (os error 21)" }
    else
      (Directory.fileSystem [("a", Image.twoSections.bytes)]).openFile path

lemma speaksInLines_oneFile : oneFile.SpeaksInLines where
  opening {path _} h := by
    unfold oneFile at h
    dsimp only at h
    split at h
    · cases h
    · exact (Directory.speaksInLines_fileSystem _).opening h
  reading {path _ _} h hraised := by
    unfold oneFile at h
    dsimp only at h
    split at h
    · cases h
      rcases hraised with rfl | rfl
      · change OneLine IoError.seekFault.message
        decide
      · change OneLine "Is a directory (os error 21)"
        decide
    · exact (Directory.speaksInLines_fileSystem _).reading h hraised

/-- A path that leads to the file, one that leads nowhere, and one that leads to the directory. -/
theorem run_inspect_oneFile :
    let invocation : Invocation := { path := "a", scope := .all, format := .text, noColor := true }
    parse ["--no-color", "a"] = .ok (.inspect invocation) ∧
      (∃ (completion : Completion) (analysis : Analysis),
        run oneFile .ansi ["--no-color", "a"] = .ok completion ∧
        run oneFile .ansi ["--no-color", "a", "all"] = .ok completion ∧
        completion.status = 0 ∧ completion.errors = "" ∧
        analysis.sections.map SectionSummary.name = ["ä", ".n"] ∧
        completion.output = "[+] Analyzing ELF file: a\n\n" ++
          Report.header .plain analysis.header ++ "\n" ++
          Report.sections .plain analysis.sections) ∧
      (∃ completion : Completion, run oneFile .ansi ["b", "header"] = .ok completion ∧
        completion.status = 1 ∧ completion.output = "" ∧ completion.errors =
          "error: cannot analyze b: No such file or directory (os error 2)\n") ∧
      ∃ (completion : Completion) (line : String),
        run oneFile .ansi [".", "--format", "json"] = .ok completion ∧
        completion.status = 1 ∧ completion.output = "" ∧ completion.errors = line ++ "\n" ∧
        line = "error: cannot analyze .: Is a directory (os error 21)" ∧ OneLine line := by
  intro invocation
  have hparse : parse ["--no-color", "a"] = .ok (.inspect invocation) := rfl
  have haccepts : Accepts oneFile "a" (Layout.analysis Image.twoSections.bytes "a") := by
    have hfaithful := Reader.faithful_honest Image.twoSections.bytes_lt
    refine ⟨_, rfl, ?_⟩
    rw [Analysis.ofReader_eq_run hfaithful,
      Layout.run_checks_eq_ok_iff.mpr (by decide +kernel), ok_bind]
    rfl
  refine ⟨hparse, ?_, ?_, ?_⟩
  · obtain ⟨completion, hrun, -, hstatus, -, htext, -, -, happend⟩ :=
      run_inspect hparse oneFile .ansi
    obtain ⟨hzero, hempty⟩ := hstatus.mpr ⟨_, haccepts⟩
    have hprints (scope : Scope) (words : List String)
        (hwords : parse words = .ok (.inspect { invocation with scope })) :
        Prints oneFile "a" scope .text .plain (Invocation.report { invocation with scope } .ansi
          (Layout.analysis Image.twoSections.bytes "a")) :=
      @prints_of_accepts _ _ _ _ _ _ _ .ansi .plain hwords rfl haccepts
    refine ⟨completion, Layout.analysis Image.twoSections.bytes "a", hrun, happend (by decide),
      hzero, hempty, by decide +kernel, ?_⟩
    exact htext .plain _ _ _ ⟨_, .ansi, true, completion, hparse, rfl, hrun, hzero, rfl⟩
      (hprints .header ["--no-color", "a", "header"] rfl)
      (hprints .sections ["--no-color", "a", "sections"] rfl)
  · have hparse' : parse ["b", "header"] = .ok (.inspect
        { path := "b", scope := .header, format := .text, noColor := false }) := rfl
    have hopen : oneFile.openFile "b" = .error .notFound := rfl
    obtain ⟨completion, hrun, -, -, hrefuses, -⟩ := run_inspect hparse' oneFile .ansi
    have hrefused : Refuses oneFile "b" (.io .notFound) := .inl ⟨_, hopen, rfl⟩
    obtain ⟨hone, hempty, fault, line, hfault, rfl, herrors, -⟩ :=
      hrefuses fun ⟨_, h⟩ => not_accepts_of_refuses hrefused h
    obtain rfl := hfault.unique hrefused
    exact ⟨completion, hrun, hone, hempty, herrors⟩
  · have hparse' : parse [".", "--format", "json"] = .ok (.inspect
        { path := ".", scope := .all, format := .json, noColor := false }) := rfl
    obtain ⟨completion, hrun, -, -, hrefuses, -⟩ := run_inspect hparse' oneFile .ansi
    have hrefused : Refuses oneFile "." (.io (.other "Is a directory (os error 21)")) := by
      refine .inr ⟨_, rfl, ?_⟩
      decide +kernel
    obtain ⟨hone, hempty, fault, line, hfault, rfl, herrors, honeLine⟩ :=
      hrefuses fun ⟨_, h⟩ => not_accepts_of_refuses hrefused h
    obtain rfl := hfault.unique hrefused
    exact ⟨completion, _, hrun, hone, hempty, herrors, rfl,
      honeLine speaksInLines_oneFile (by decide)⟩

end CommandLine

end ElfInspect
