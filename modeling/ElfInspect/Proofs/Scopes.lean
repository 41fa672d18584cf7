import ElfInspect.CommandLine.Arguments
import ElfInspect.Proofs.Results

/-!
# Command lines with and without a scope

A command line without a scope asks for all. Wherever the word for it is put in, if the command
line makes sense with it and without it, the two ask for the same; and at the end it can be put
in whenever no scope has been named.
-/

namespace ElfInspect.CommandLine

variable {path? : Option String} {path text value : String} {scope : Scope}
  {options before after : Options} {rest : List String} {request : Request}

/-- The word that asks for all. -/
def allWord : String := "all"

lemma ofText_allWord : Word.ofText allWord = .bare := by
  decide

lemma ofName?_allWord : Scope.ofName? allWord = some .all := by
  decide

lemma formatOfName?_allWord : Format.ofName? allWord = none := by
  decide

lemma setFormat_allWord (options found : Options) : options.setFormat allWord ≠ .ok found := by
  unfold Options.setFormat
  rw [formatOfName?_allWord]
  cases options.format? with
  | none => exact nofun
  | some format => exact nofun

lemma eq_of_ofText_eq_separator (h : Word.ofText text = .separator) : text = "--" := by
  unfold Word.ofText at h
  split at h
  · rfl
  · cases h
  · cases h
  · cases h
  · cases h
  · split at h <;> cases h

/-! ### One word at a time -/

section Words

/-- What the words come to after a bare one that names this scope or none. -/
def scanName (path? : Option String) (options : Options) (text : String) (rest : List String)
    (scope? : Option Scope) : Except UsageError Request :=
  match path?, scope? with
  | none, none => takePath text >>= fun path => scan (some path) options rest
  | none, some _ => .error .missingPath
  | some path, some scope => scanAfter path scope options {} rest
  | some _, none => .error (.unexpectedWord text)

/-- What the words come to after one of this kind, up to the scope. -/
def scanWord (path? : Option String) (options : Options) (text : String) (rest : List String) :
    Word → Except UsageError Request
  | .separator => scanBare path? options rest
  | .version => .ok .version
  | .noColor => options.setNoColor >>= fun options => scan path? options rest
  | .formatIs value => options.setFormat value >>= fun options => scan path? options rest
  | .format =>
    match rest with
    | [] => .error .missingFormat
    | value :: rest => options.setFormat value >>= fun options => scan path? options rest
  | .unknownOption => .error (.unknownOption text)
  | .bare => scanName path? options text rest (Scope.ofName? text)

/-- What the words come to after one of this kind, behind the scope. -/
def scanAfterWord (path : String) (scope : Scope) (before after : Options) (text : String)
    (rest : List String) : Word → Except UsageError Request
  | .separator =>
    match rest with
    | [] => .ok (.ofParts path scope before after)
    | word :: _ => .error (.unexpectedWord word)
  | .noColor => after.setNoColor >>= fun after => scanAfter path scope before after rest
  | .formatIs value => after.setFormat value >>= fun after => scanAfter path scope before after rest
  | .format =>
    match rest with
    | [] => .error .missingFormat
    | value :: rest =>
      after.setFormat value >>= fun after => scanAfter path scope before after rest
  | .version | .unknownOption => .error (.unknownOption text)
  | .bare => .error (.unexpectedWord text)

lemma scan_cons :
    scan path? options (text :: rest) = scanWord path? options text rest (Word.ofText text) := by
  rw [scan.eq_def]
  dsimp only
  cases Word.ofText text <;> rfl

lemma scanAfter_cons :
    scanAfter path scope before after (text :: rest) =
      scanAfterWord path scope before after text rest (Word.ofText text) := by
  rw [scanAfter.eq_def]
  dsimp only
  cases Word.ofText text <;> rfl

lemma scan_separator (h : Word.ofText text = .separator) :
    scan path? options (text :: rest) = scanBare path? options rest := by
  rw [scan_cons, h]
  rfl

lemma scan_noColor (h : Word.ofText text = .noColor) :
    scan path? options (text :: rest) =
      options.setNoColor >>= fun options => scan path? options rest := by
  rw [scan_cons, h]
  rfl

lemma scan_formatIs (h : Word.ofText text = .formatIs value) :
    scan path? options (text :: rest) =
      options.setFormat value >>= fun options => scan path? options rest := by
  rw [scan_cons, h]
  rfl

lemma scan_format (h : Word.ofText text = .format) :
    scan path? options (text :: value :: rest) =
      options.setFormat value >>= fun options => scan path? options rest := by
  rw [scan_cons, h]
  rfl

lemma scan_bare (h : Word.ofText text = .bare) :
    scan path? options (text :: rest) =
      scanName path? options text rest (Scope.ofName? text) := by
  rw [scan_cons, h]
  rfl

lemma scan_path (h : Word.ofText text = .bare) (hname : Scope.ofName? text = none) :
    scan none options (text :: rest) =
      takePath text >>= fun path => scan (some path) options rest := by
  rw [scan_bare h, hname]
  rfl

lemma scan_scope (h : Word.ofText text = .bare) (hname : Scope.ofName? text = some scope) :
    scan (some path) options (text :: rest) = scanAfter path scope options {} rest := by
  rw [scan_bare h, hname]
  rfl

lemma scan_version (h : Word.ofText text = .version) :
    scan path? options (text :: rest) = .ok .version := by
  rw [scan_cons, h]
  rfl

lemma scan_unknownOption (h : Word.ofText text = .unknownOption) :
    scan path? options (text :: rest) = .error (.unknownOption text) := by
  rw [scan_cons, h]
  rfl

lemma scan_scope_of_none (h : Word.ofText text = .bare) (hname : Scope.ofName? text = some scope) :
    scan none options (text :: rest) = .error .missingPath := by
  rw [scan_bare h, hname]
  rfl

lemma scan_unexpected (h : Word.ofText text = .bare) (hname : Scope.ofName? text = none) :
    scan (some path) options (text :: rest) = .error (.unexpectedWord text) := by
  rw [scan_bare h, hname]
  rfl

lemma scanAfter_noColor (h : Word.ofText text = .noColor) :
    scanAfter path scope before after (text :: rest) =
      after.setNoColor >>= fun after => scanAfter path scope before after rest := by
  rw [scanAfter_cons, h]
  rfl

lemma scanAfter_formatIs (h : Word.ofText text = .formatIs value) :
    scanAfter path scope before after (text :: rest) =
      after.setFormat value >>= fun after => scanAfter path scope before after rest := by
  rw [scanAfter_cons, h]
  rfl

lemma scanAfter_format (h : Word.ofText text = .format) :
    scanAfter path scope before after (text :: value :: rest) =
      after.setFormat value >>= fun after => scanAfter path scope before after rest := by
  rw [scanAfter_cons, h]
  rfl

lemma scanAfter_separator (h : Word.ofText text = .separator) :
    scanAfter path scope before after (text :: value :: rest) =
      .error (.unexpectedWord value) := by
  rw [scanAfter_cons, h]
  rfl

lemma scanAfter_bare (h : Word.ofText text = .bare) :
    scanAfter path scope before after (text :: rest) = .error (.unexpectedWord text) := by
  rw [scanAfter_cons, h]
  rfl

lemma scanAfter_option (h : Word.ofText text = .version ∨ Word.ofText text = .unknownOption) :
    scanAfter path scope before after (text :: rest) = .error (.unknownOption text) := by
  rw [scanAfter_cons]
  rcases h with h | h <;> rw [h] <;> rfl

end Words

/-- After a scope there is no place for another one. -/
lemma scanAfter_append_allWord (words more : List String) :
    scanAfter path scope before after (words ++ allWord :: more) ≠ .ok request := by
  fun_induction scanAfter path scope before after words with
  | case1 =>
    rw [List.nil_append, scanAfter_bare ofText_allWord]
    exact nofun
  | case2 _ _ hword =>
    rw [List.cons_append, List.nil_append, scanAfter_separator hword]
    exact nofun
  | case3 _ _ hword =>
    rw [List.cons_append, List.cons_append, scanAfter_separator hword]
    exact nofun
  | case4 _ _ _ hword ih =>
    intro hok
    rw [List.cons_append, scanAfter_noColor hword] at hok
    obtain ⟨found, -, hnext⟩ := exists_of_bind_eq_ok hok
    exact ih found hnext
  | case5 _ _ _ _ hword ih =>
    intro hok
    rw [List.cons_append, scanAfter_formatIs hword] at hok
    obtain ⟨found, -, hnext⟩ := exists_of_bind_eq_ok hok
    exact ih found hnext
  | case6 _ _ hword =>
    intro hok
    rw [List.cons_append, List.nil_append, scanAfter_format hword] at hok
    obtain ⟨found, hfound, -⟩ := exists_of_bind_eq_ok hok
    exact setFormat_allWord _ _ hfound
  | case7 _ _ hword _ _ ih =>
    intro hok
    rw [List.cons_append, List.cons_append, scanAfter_format hword] at hok
    obtain ⟨found, -, hnext⟩ := exists_of_bind_eq_ok hok
    exact ih found hnext
  | case8 _ _ _ hword =>
    rw [List.cons_append, scanAfter_option (.inl hword)]
    exact nofun
  | case9 _ _ _ hword =>
    rw [List.cons_append, scanAfter_option (.inr hword)]
    exact nofun
  | case10 _ _ _ hword =>
    rw [List.cons_append, scanAfter_bare hword]
    exact nofun

/-! ### Options on one side of a scope and on two -/

/-- The options of both sides together. -/
def Options.merge (before after : Options) : Options where
  format? := after.format? <|> before.format?
  noColor := before.noColor || after.noColor

lemma merge_none (options : Options) : options.merge {} = options := by
  simp [Options.merge]

lemma ofParts_merge (path : String) (before after : Options) :
    Request.ofParts path .all (before.merge after) {} = .ofParts path .all before after := by
  simp [Request.ofParts, Options.merge]

lemma setNoColor_merge {merged found : Options}
    (hmerged : (before.merge after).setNoColor = .ok merged)
    (hfound : after.setNoColor = .ok found) : merged = before.merge found := by
  unfold Options.setNoColor at hmerged hfound
  split at hmerged
  · cases hmerged
  split at hfound
  · cases hfound
  cases hmerged
  cases hfound
  simp [Options.merge]

lemma setFormat_merge {merged found : Options}
    (hmerged : (before.merge after).setFormat value = .ok merged)
    (hfound : after.setFormat value = .ok found) : merged = before.merge found := by
  unfold Options.setFormat at hmerged hfound
  cases hafter : after.format? with
  | some format =>
    rw [hafter] at hfound
    cases hfound
  | none =>
    cases hformat : Format.ofName? value with
    | none =>
      rw [hafter, hformat] at hfound
      cases hfound
    | some format =>
      rw [hafter, hformat] at hfound
      cases hfound
      cases hbefore : (before.merge after).format? with
      | some other =>
        rw [hbefore, hformat] at hmerged
        cases hmerged
      | none =>
        rw [hbefore, hformat] at hmerged
        cases hmerged
        simp [Options.merge]

/-- With all named or with no scope named, the options of both sides count alike. -/
lemma scan_merge_unique {invocation invocation' : Invocation} (words : List String)
    (h : scan (some path) (before.merge after) words = .ok (.inspect invocation))
    (h' : scanAfter path .all before after words = .ok (.inspect invocation')) :
    invocation = invocation' := by
  have hends : ∀ {after : Options},
      scan (some path) (before.merge after) [] = .ok (.inspect invocation) →
      (.ok (.ofParts path .all before after) : Except UsageError Request) =
        .ok (.inspect invocation') → invocation = invocation' := by
    intro after h h'
    rw [← ofParts_merge] at h'
    cases h'
    cases h
    rfl
  fun_induction scanAfter path .all before after words with
  | case1 => exact hends h h'
  | case2 _ _ hword =>
    rw [scan_separator hword] at h
    exact hends h h'
  | case3 | case6 | case8 | case9 | case10 => cases h'
  | case4 _ _ _ hword ih =>
    rw [scan_noColor hword] at h
    obtain ⟨merged, hmerged, hscan⟩ := exists_of_bind_eq_ok h
    obtain ⟨found, hfound, hscan'⟩ := exists_of_bind_eq_ok h'
    rw [setNoColor_merge hmerged hfound] at hscan
    exact ih found hscan hscan'
  | case5 _ _ _ _ hword ih =>
    rw [scan_formatIs hword] at h
    obtain ⟨merged, hmerged, hscan⟩ := exists_of_bind_eq_ok h
    obtain ⟨found, hfound, hscan'⟩ := exists_of_bind_eq_ok h'
    rw [setFormat_merge hmerged hfound] at hscan
    exact ih found hscan hscan'
  | case7 _ _ hword _ _ ih =>
    rw [scan_format hword] at h
    obtain ⟨merged, hmerged, hscan⟩ := exists_of_bind_eq_ok h
    obtain ⟨found, hfound, hscan'⟩ := exists_of_bind_eq_ok h'
    rw [setFormat_merge hmerged hfound] at hscan
    exact ih found hscan hscan'

/-- After two dashes a word more or less makes the difference between sense and none. -/
lemma scanBare_insert {request' : Request} (words more : List String)
    (h : scanBare path? options (words ++ more) = .ok request) :
    scanBare path? options (words ++ allWord :: more) ≠ .ok request' := by
  intro h'
  cases words with
  | nil =>
    cases more with
    | nil =>
      cases path? with
      | none => cases h
      | some path => cases h'
    | cons word more => cases h'
  | cons word words =>
    cases words with
    | nil => cases h'
    | cons next words => cases h'

/-- Wherever the word for all makes sense and can be left out, it makes no difference. -/
theorem scan_insert_unique {invocation invocation' : Invocation} (words more : List String)
    (h : scan path? options (words ++ more) = .ok (.inspect invocation))
    (h' : scan path? options (words ++ allWord :: more) = .ok (.inspect invocation')) :
    invocation = invocation' := by
  fun_induction scan path? options words with
  | case1 path? options =>
    cases path? with
    | none =>
      rw [List.nil_append, scan_scope_of_none ofText_allWord ofName?_allWord] at h'
      cases h'
    | some path =>
      rw [List.nil_append, scan_scope ofText_allWord ofName?_allWord] at h'
      rw [← merge_none options] at h
      exact scan_merge_unique more h h'
  | case2 _ _ _ words hword =>
    rw [List.cons_append, scan_separator hword] at h h'
    exact (scanBare_insert words more h h').elim
  | case3 _ _ _ _ hword =>
    rw [List.cons_append, scan_version hword] at h
    cases h
  | case4 _ _ _ _ hword ih =>
    rw [List.cons_append, scan_noColor hword] at h h'
    obtain ⟨found, hscan, hscan'⟩ := exists_of_binds_eq_ok h h'
    exact ih found hscan hscan'
  | case5 _ _ _ _ _ hword ih =>
    rw [List.cons_append, scan_formatIs hword] at h h'
    obtain ⟨found, hscan, hscan'⟩ := exists_of_binds_eq_ok h h'
    exact ih found hscan hscan'
  | case6 _ _ _ hword =>
    rw [List.cons_append, List.nil_append, scan_format hword] at h'
    obtain ⟨found, hfound, -⟩ := exists_of_bind_eq_ok h'
    exact (setFormat_allWord _ _ hfound).elim
  | case7 _ _ _ hword _ _ ih =>
    rw [List.cons_append, List.cons_append, scan_format hword] at h h'
    obtain ⟨found, hscan, hscan'⟩ := exists_of_binds_eq_ok h h'
    exact ih found hscan hscan'
  | case8 _ _ _ _ hword =>
    rw [List.cons_append, scan_unknownOption hword] at h
    cases h
  | case9 _ _ _ hword hname ih =>
    rw [List.cons_append, scan_path hword hname] at h h'
    obtain ⟨path, hscan, hscan'⟩ := exists_of_binds_eq_ok h h'
    exact ih path hscan hscan'
  | case10 _ _ _ hword _ hname =>
    rw [List.cons_append, scan_scope_of_none hword hname] at h
    cases h
  | case11 _ _ words hword _ _ hname =>
    rw [List.cons_append, scan_scope hword hname] at h'
    exact (scanAfter_append_allWord words more h').elim
  | case12 _ _ _ hword _ hname =>
    rw [List.cons_append, scan_unexpected hword hname] at h
    cases h

/-- Where no scope is named, the word for all can be put at the end. -/
theorem scan_append_allWord {invocation : Invocation} (words : List String)
    (hwords : ∀ word ∈ words, word ≠ "--" ∧ Scope.ofName? word = none)
    (h : scan path? options words = .ok (.inspect invocation)) :
    scan path? options (words ++ [allWord]) = .ok (.inspect invocation) := by
  fun_induction scan path? options words with
  | case1 path? options =>
    cases path? with
    | none => cases h
    | some path =>
      rw [List.nil_append, scan_scope ofText_allWord ofName?_allWord]
      have hparts := ofParts_merge path options {}
      rw [merge_none] at hparts
      rw [← h, scanAfter, finish, hparts]
  | case2 _ _ _ words hword =>
    exact ((hwords _ List.mem_cons_self).1 (eq_of_ofText_eq_separator hword)).elim
  | case3 | case6 | case8 | case10 | case12 => cases h
  | case4 _ _ _ _ hword ih =>
    obtain ⟨found, hfound, hscan⟩ := exists_of_bind_eq_ok h
    have htail := ih found (fun word hmem => hwords word (List.mem_cons_of_mem _ hmem)) hscan
    rw [List.cons_append, scan_noColor hword, hfound]
    exact htail
  | case5 _ _ _ _ _ hword ih =>
    obtain ⟨found, hfound, hscan⟩ := exists_of_bind_eq_ok h
    have htail := ih found (fun word hmem => hwords word (List.mem_cons_of_mem _ hmem)) hscan
    rw [List.cons_append, scan_formatIs hword, hfound]
    exact htail
  | case7 _ _ _ hword _ _ ih =>
    obtain ⟨found, hfound, hscan⟩ := exists_of_bind_eq_ok h
    have htail := ih found (fun word hmem =>
      hwords word (List.mem_cons_of_mem _ (List.mem_cons_of_mem _ hmem))) hscan
    rw [List.cons_append, List.cons_append, scan_format hword, hfound]
    exact htail
  | case9 _ _ _ hword hname ih =>
    obtain ⟨path, hpath, hscan⟩ := exists_of_bind_eq_ok h
    have htail := ih path (fun word hmem => hwords word (List.mem_cons_of_mem _ hmem)) hscan
    rw [List.cons_append, scan_path hword hname, hpath]
    exact htail
  | case11 _ _ _ _ _ _ hname =>
    rw [(hwords _ List.mem_cons_self).2] at hname
    cases hname

end ElfInspect.CommandLine
