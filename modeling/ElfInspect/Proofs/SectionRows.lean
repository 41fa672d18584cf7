import ElfInspect.Proofs.Printable
import ElfInspect.Proofs.ReportLines
import ElfInspect.Proofs.TableColumns
import ElfInspect.Report.Sections

/-!
# The lines of the section report

The names in the report come from the file and are printed as they are. A name with line breaks
makes its row of the table higher, so that the report has a line for every section exactly if no
name has a break in it. In any case the lines of a section stand together, the sections keep their
order, and only the first line of each has anything where the index stands.
-/

namespace ElfInspect

/-! ### Labels -/

lemma SectionHeader.oneLine_typeLabel (code : UInt32) : OneLine (typeLabel code) :=
  (printable_typeLabel code).oneLine

lemma SectionHeader.oneLine_flagLetters (flags : UInt64) : OneLine (flagLetters flags) :=
  (printable_flagLetters flags).oneLine

/-- The summary is that of some section header, with its name from some table of names. -/
def SectionSummary.Resolved (summary : SectionSummary) : Prop :=
  ∃ names index sh, summary = ofHeader names index sh

lemma SectionSummary.resolved_ofHeader (names : NameTable) (index : Nat) (sh : SectionHeader) :
    (ofHeader names index sh).Resolved :=
  ⟨names, index, sh, rfl⟩

namespace Report

open Numeral

/-! ### The cells of a section -/

/-- The index of a section as its first cell shows it. -/
def bracketed (index : Nat) : String :=
  "[" ++ fillLeft ' ' 2 (decimal index) ++ "]"

lemma printable_bracketed (index : Nat) : Printable (bracketed index) := by
  unfold bracketed
  rw [printable_append, printable_append]
  exact ⟨⟨by decide, printable_fillLeft (by decide) (printable_decimal index) 2⟩, by decide⟩

lemma oneLine_bracketed (index : Nat) : OneLine (bracketed index) :=
  (printable_bracketed index).oneLine

lemma length_sectionHeading : sectionHeading.length = 7 := by
  simp only [sectionHeading, List.length_map, List.length_cons, List.length_nil]

lemma length_sectionRow (summary : SectionSummary) : (sectionRow summary).length = 7 := by
  simp only [sectionRow, List.length_map, List.length_cons, List.length_nil]

/-- The columns of the report have room for the headings and for all cells. -/
lemma cellWidth_le_widths (summaries : List SectionSummary) :
    ∀ row ∈ sectionHeading :: summaries.map sectionRow,
      List.Forall₂ (· ≤ ·) (row.map Columns.cellWidth)
        (Columns.widths sectionHeading (summaries.map sectionRow)) := by
  apply Columns.forall₂_cellWidth_le
  rw [List.forall_mem_map, length_sectionHeading]
  exact fun summary _ => length_sectionRow summary

/-- A row is as high as the name in it. -/
lemma height_sectionRow {summary : SectionSummary} (h : summary.Resolved) :
    Columns.height (sectionRow summary) = summary.name.toList.count '\n' + 1 := by
  obtain ⟨names, index, sh, rfl⟩ := h
  have hindex := List.count_eq_zero.mpr (oneLine_bracketed index)
  have hkind := List.count_eq_zero.mpr (SectionHeader.oneLine_typeLabel sh.type)
  have hsize := List.count_eq_zero.mpr (oneLine_decimal sh.size.toNat)
  have haddress := List.count_eq_zero.mpr (oneLine_paddedHex 16 sh.addr.toNat)
  have hoffset := List.count_eq_zero.mpr (oneLine_paddedHex 16 sh.offset.toNat)
  have hflags := List.count_eq_zero.mpr (SectionHeader.oneLine_flagLetters sh.flags)
  rw [bracketed] at hindex
  simp only [Columns.height, sectionRow, SectionSummary.ofHeader, List.map_cons, List.map_nil,
    Columns.length_lines, List.foldl_cons, List.foldl_nil, hindex, hkind, hsize, haddress,
    hoffset, hflags]
  omega

/-! ### The lines of a section -/

/-- The line begins with the index of the section, behind one blank. -/
def BeginsWithIndex (summary : SectionSummary) (line : String) : Prop :=
  ∃ rest, line = " " ++ bracketed summary.index ++ rest

/-- The lines of one section: one that begins with the index, and for each break in the name a
further one, which is blank as far as the index goes. -/
def Block (summary : SectionSummary) (lines : List String) : Prop :=
  ∃ first further, lines = first :: further ∧ BeginsWithIndex summary first ∧
    further.length = summary.name.toList.count '\n' ∧
    ∀ line ∈ further, ∃ blanks rest, blanks.length = (bracketed summary.index).length + 1 ∧
      (∀ char ∈ blanks.toList, char = ' ') ∧ line = blanks ++ rest

lemma block_rowLines {summary : SectionSummary} (h : summary.Resolved) {width : Nat}
    (hwidth : (bracketed summary.index).length ≤ width) (rest : List Nat) :
    Block summary
      ((Columns.rowLines (width :: rest) (sectionRow summary)).map String.ofList) := by
  have hbreak := oneLine_bracketed summary.index
  rw [Columns.rowLines, height_sectionRow h, List.range_succ_eq_map, List.map_cons, List.map_cons,
    List.map_map, List.map_map]
  refine ⟨_, _, rfl, ?_, by rw [List.length_map, List.length_range], ?_⟩
  · obtain ⟨tail, htail⟩ := Columns.exists_rowLine_zero hbreak
    refine ⟨String.ofList tail, ?_⟩
    refine (congrArg String.ofList htail).trans ?_
    apply String.toList_injective
    simp
  · intro line hline
    obtain ⟨index, -, rfl⟩ := List.mem_map.mp hline
    obtain ⟨tail, htail⟩ := Columns.exists_rowLine_succ hbreak hwidth index
    refine ⟨String.ofList (List.replicate ((bracketed summary.index).length + 1) ' '),
      String.ofList tail, ?_, ?_, ?_⟩
    · rw [String.length_ofList, List.length_replicate]
    · intro char hchar
      rw [String.toList_ofList] at hchar
      exact List.eq_of_mem_replicate hchar
    · rw [← String.ofList_append]
      exact congrArg String.ofList htail

/-! ### The whole report -/

/-- The first and last lines of the report stand around those of the table. -/
def framed (rows : List String) : List String :=
  "Section Headers:" :: (rows ++ flagKey)

lemma printable_of_mem_flagKey : ∀ line ∈ flagKey, Printable line := by
  decide +kernel

lemma oneLine_of_mem_framed {rows : List String} (h : ∀ line ∈ rows, OneLine line) :
    ∀ line ∈ framed rows, OneLine line := by
  have htitle : OneLine "Section Headers:" := by decide
  have hkey : ∀ line ∈ flagKey, OneLine line :=
    fun line hline => (printable_of_mem_flagKey line hline).oneLine
  rw [framed, List.forall_mem_cons, List.forall_mem_append]
  exact ⟨htitle, h, hkey⟩

/-- The text has one line for each section, in their order, and each begins with the index of its
section. -/
def OneLineEach (sections : List SectionSummary) (text : String) : Prop :=
  ∃ heading rows, text = unlines (framed (heading :: rows)) ∧
    (∀ line ∈ heading :: rows, OneLine line) ∧ List.Forall₂ BeginsWithIndex sections rows

/-- The text has a block of lines for each section, in their order. -/
def BlockEach (sections : List SectionSummary) (text : String) : Prop :=
  ∃ heading blocks, text = unlines (framed (heading :: blocks.flatten)) ∧
    (∀ line ∈ heading :: blocks.flatten, OneLine line) ∧ List.Forall₂ Block sections blocks

section Sections

variable {summaries : List SectionSummary}

/-- The lines of a section in columns of the given widths. -/
def sectionLines (widths : List Nat) (summary : SectionSummary) : List String :=
  (Columns.rowLines widths (sectionRow summary)).map String.ofList

/-- The line with the headings of the columns. -/
def headingLine (widths : List Nat) : String :=
  String.ofList (Columns.rowLine widths sectionHeading 0)

lemma tableLines_eq (summaries : List SectionSummary) {widths : List Nat}
    (h : Columns.widths sectionHeading (summaries.map sectionRow) = widths) :
    (Columns.tableLines sectionHeading (summaries.map sectionRow)).map String.ofList =
      headingLine widths :: (summaries.map (sectionLines widths)).flatten := by
  have hheading : Columns.rowLines widths sectionHeading =
      [Columns.rowLine widths sectionHeading 0] := rfl
  rw [Columns.tableLines, h, List.flatMap_cons, hheading, List.singleton_append, List.map_cons,
    List.flatMap_map, List.map_flatMap, List.flatMap_def]
  rfl

/-- Only the title hangs on the paint. -/
lemma sections_of_ne_nil (hne : summaries ≠ []) (paint : Paint) :
    sections paint summaries =
      unlines (paint.apply .bold "Section Headers:" :: sectionTable summaries :: flagKey) := by
  rw [sections, if_neg (mt List.isEmpty_iff.mp hne)]

lemma sections_eq_unlines_cons (hne : summaries ≠ []) {widths : List Nat}
    (h : Columns.widths sectionHeading (summaries.map sectionRow) = widths) (paint : Paint) :
    sections paint summaries =
      unlines (paint.apply .bold "Section Headers:" ::
        ((headingLine widths :: (summaries.map (sectionLines widths)).flatten) ++ flagKey)) := by
  have hlines := tableLines_eq summaries h
  have hsome : Columns.tableLines sectionHeading (summaries.map sectionRow) ≠ [] := by
    intro hnone
    rw [hnone] at hlines
    cases hlines
  rw [sections_of_ne_nil hne, unlines_cons, sectionTable, Columns.render,
    unlines_intercalate_cons hsome, hlines]
  exact (unlines_cons _ _).symm

lemma sections_eq_unlines (hne : summaries ≠ []) {widths : List Nat}
    (h : Columns.widths sectionHeading (summaries.map sectionRow) = widths) :
    sections .plain summaries =
      unlines (framed (headingLine widths :: (summaries.map (sectionLines widths)).flatten)) :=
  sections_eq_unlines_cons hne h .plain

lemma oneLine_of_mem_table (widths : List Nat) :
    ∀ line ∈ headingLine widths :: (summaries.map (sectionLines widths)).flatten,
      OneLine line := by
  have hrow : ∀ row index, OneLine (String.ofList (Columns.rowLine widths row index)) := by
    intro row index
    rw [OneLine, String.toList_ofList]
    exact Columns.break_not_mem_rowLine widths row index
  rw [List.forall_mem_cons]
  refine ⟨hrow _ _, ?_⟩
  simp only [List.mem_flatten, List.mem_map, sectionLines, Columns.rowLines]
  rintro _ ⟨_, ⟨summary, -, rfl⟩, hline⟩
  simp only [List.mem_map] at hline
  obtain ⟨_, ⟨index, -, rfl⟩, rfl⟩ := hline
  exact hrow _ _

/-- Every section has its block of lines in the report. -/
lemma blockEach_sections (hne : summaries ≠ [])
    (h : ∀ summary ∈ summaries, summary.Resolved) :
    BlockEach summaries (sections .plain summaries) := by
  obtain ⟨hheading, hcells⟩ := List.forall_mem_cons.mp (cellWidth_le_widths summaries)
  have hlength := hheading.length_eq
  rw [List.length_map, length_sectionHeading] at hlength
  obtain ⟨width, rest, hwidths⟩ := List.exists_cons_of_length_eq_add_one hlength.symm
  refine ⟨_, _, sections_eq_unlines hne hwidths, oneLine_of_mem_table _, ?_⟩
  rw [List.forall₂_map_right_iff, List.forall₂_same]
  intro summary hsummary
  have hrow := hcells _ (List.mem_map_of_mem hsummary)
  rw [hwidths, sectionRow, List.map_cons, List.map_cons, List.forall₂_cons] at hrow
  have hcell : Columns.cellWidth (bracketed summary.index).toList ≤ width := hrow.1
  rw [Columns.cellWidth_of_not_mem (oneLine_bracketed _),
    (printable_bracketed _).ofChars_eq] at hcell
  exact block_rowLines (h summary hsummary) hcell rest

lemma length_flatten_blocks {blocks : List (List String)}
    (h : List.Forall₂ Block summaries blocks) :
    blocks.flatten.length =
      summaries.length + (summaries.flatMap fun summary => summary.name.toList).count '\n' := by
  induction h with
  | nil => rfl
  | cons hblock _ ih =>
    obtain ⟨first, further, rfl, -, hfurther, -⟩ := hblock
    rw [List.flatten_cons, List.length_append, ih, List.length_cons, hfurther, List.length_cons,
      List.flatMap_cons, List.count_append]
    omega

lemma beginsWithIndex_flatten {blocks : List (List String)}
    (h : List.Forall₂ Block summaries blocks)
    (hnames : ∀ summary ∈ summaries, OneLine summary.name) :
    List.Forall₂ BeginsWithIndex summaries blocks.flatten := by
  induction h with
  | nil => exact .nil
  | cons hblock _ ih =>
    obtain ⟨hname, hrest⟩ := List.forall_mem_cons.mp hnames
    obtain ⟨first, further, rfl, hfirst, hfurther, -⟩ := hblock
    rw [List.count_eq_zero.mpr hname, List.length_eq_zero_iff] at hfurther
    subst hfurther
    exact .cons hfirst (ih hrest)

/-- A line for each section is what comes of blocks exactly if no name has a break in it. -/
lemma oneLineEach_iff_of_blockEach {text : String} (h : BlockEach summaries text) :
    OneLineEach summaries text ↔ ∀ summary ∈ summaries, OneLine summary.name := by
  obtain ⟨heading, blocks, htext, hlines, hblocks⟩ := h
  have hcount := count_break_unlines (oneLine_of_mem_framed hlines)
  rw [← htext, framed, List.length_cons, List.length_append, List.length_cons,
    length_flatten_blocks hblocks] at hcount
  constructor
  · rintro ⟨heading', rows, htext', hlines', hrows⟩
    have hcount' := count_break_unlines (oneLine_of_mem_framed hlines')
    rw [← htext', framed, List.length_cons, List.length_append, List.length_cons,
      ← hrows.length_eq] at hcount'
    have hbreaks : (summaries.flatMap fun summary => summary.name.toList).count '\n' = 0 := by
      omega
    rw [List.count_eq_zero] at hbreaks
    exact fun summary hsummary hbreak => hbreaks (List.mem_flatMap.mpr ⟨summary, hsummary, hbreak⟩)
  · intro hnames
    exact ⟨heading, blocks.flatten, htext, hlines, beginsWithIndex_flatten hblocks hnames⟩

end Sections

/-- Every section has its lines in the report, in the order of the sections. There is one line for
each exactly if no name has a break in it. -/
theorem sections_oneLineEach_iff {summaries : List SectionSummary} (hne : summaries ≠ [])
    (h : ∀ summary ∈ summaries, summary.Resolved) :
    BlockEach summaries (sections .plain summaries) ∧
      (OneLineEach summaries (sections .plain summaries) ↔
        ∀ summary ∈ summaries, OneLine summary.name) := by
  have hblocks := blockEach_sections hne h
  exact ⟨hblocks, oneLineEach_iff_of_blockEach hblocks⟩

/-- A section of a kind that every file has, with its name at an offset. -/
def plainSection (name : UInt32) : SectionHeader where
  name
  type := 1
  flags := 6
  addr := 0x1000
  offset := 0x200
  size := 5
  link := 0
  info := 0
  addralign := 16
  entsize := 0

/-- Names that share their end, with replacements for what is no text, take one line each. -/
theorem sections_sharedNames :
    let names : NameTable := { bytes := [0x2e, 0xff, 0x09, 0x61, 0, 0x0a] }
    let summaries := [SectionSummary.ofHeader names 0 (plainSection 0),
      SectionSummary.ofHeader names 1 (plainSection 3)]
    summaries ≠ [] ∧ (∀ summary ∈ summaries, summary.Resolved) ∧
      (∀ summary ∈ summaries, OneLine summary.name) ∧
      OneLineEach summaries (sections .plain summaries) := by
  intro names summaries
  have hne : summaries ≠ [] := List.cons_ne_nil _ _
  have hresolved : ∀ summary ∈ summaries, summary.Resolved := by
    simp [summaries, SectionSummary.resolved_ofHeader]
  have hnames : ∀ summary ∈ summaries, OneLine summary.name := by decide +kernel
  exact ⟨hne, hresolved, hnames, (sections_oneLineEach_iff hne hresolved).2.mpr hnames⟩

/-- A name with a break in it and a bracketed number behind the break gives the report a line too
many, with that number in it. -/
theorem sections_forged :
    let names : NameTable := { bytes := [0x61, 0x0a, 0x5b, 0x20, 0x31, 0x5d, 0x20, 0x62, 0] }
    let summary := SectionSummary.ofHeader names 0 (plainSection 0)
    summary.Resolved ∧ summary.name = "a\n[ 1] b" ∧
      ¬OneLineEach [summary] (sections .plain [summary]) := by
  intro names summary
  have hresolved : summary.Resolved := SectionSummary.resolved_ofHeader _ _ _
  have hname : summary.name = "a\n[ 1] b" := by decide +kernel
  have hblocks := blockEach_sections (List.cons_ne_nil summary [])
    (List.forall_mem_singleton.mpr hresolved)
  refine ⟨hresolved, hname, ?_⟩
  rw [oneLineEach_iff_of_blockEach hblocks, List.forall_mem_singleton, hname]
  decide

end Report

end ElfInspect
