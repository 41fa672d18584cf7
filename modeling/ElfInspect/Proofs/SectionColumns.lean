import ElfInspect.Proofs.HeaderLines
import ElfInspect.Proofs.SectionRows
import ElfInspect.Proofs.TableColumns

/-!
# The section table read back

With printable names the section report has one line for each section, and all lines of the table
have their cells at the same seven places. The headings show how wide the columns are. So, with no
blanks in the names either, all that the report says about a section can be read back from it.
-/

namespace ElfInspect

/-- The name is printable, and the words for type and flags are those of some section. -/
structure SectionSummary.Legible (summary : SectionSummary) : Prop extends summary.Labelled where
  name : Printable summary.name

/-- The report says the same about both sections. -/
structure SectionSummary.ShownAlike (summary other : SectionSummary) : Prop where
  index : summary.index = other.index
  name : summary.name = other.name
  kind : summary.kind = other.kind
  size : summary.size = other.size
  vma : summary.vma = other.vma
  fileOffset : summary.fileOffset = other.fileOffset
  flags : summary.flags = other.flags

namespace Report

open Numeral

/-! ### The texts of a section -/

/-- The texts in the cells of a section. -/
def sectionTexts (summary : SectionSummary) : List String := [
  bracketed summary.index,
  summary.name,
  summary.kind,
  decimal summary.size.toNat,
  paddedHex 16 summary.vma.toNat,
  paddedHex 16 summary.fileOffset.toNat,
  summary.flags]

lemma sectionRow_eq (summary : SectionSummary) :
    sectionRow summary = (sectionTexts summary).map String.toList :=
  rfl

lemma bracketed_injective : Function.Injective bracketed := by
  intro index index' h
  have hfill := (String.append_right_inj "[").mp ((String.append_left_inj "]").mp h)
  have hchars := congrArg String.toList hfill
  simp only [fillLeft, List.leftpad, String.toList_ofList] at hchars
  have hhead (index : Nat) : (decimal index).toList.head? ≠ some ' ' := fun hblank =>
    space_not_mem_decimal index (List.mem_of_head? hblank)
  obtain ⟨-, hdigits⟩ := Columns.blanks_append_inj (hhead index) (hhead index') hchars
  exact decimal_injective (String.toList_inj.mp hdigits)

lemma getLast?_bracketed (index : Nat) : (bracketed index).toList.getLast? = some ']' := by
  rw [bracketed, String.toList_append]
  exact List.getLast?_concat

lemma space_not_mem_paddedHex (width n : Nat) : ' ' ∉ (paddedHex width n).toList := by
  rw [paddedHex, fillLeft, String.toList_ofList, List.leftpad, List.mem_append, not_or]
  refine ⟨fun hmem => ?_, not_mem_hex (fun _ => Nat.digitChar_ne ' ' rfl) n⟩
  cases List.eq_of_mem_replicate hmem

/-- The text is the number in sixteen lower-case hexadecimal digits. -/
structure IsFullHex (value : UInt64) (text : String) : Prop where
  length_eq : text.length = 16
  digit : ∀ char ∈ text.toList, char ∈ "0123456789abcdef".toList
  value_eq : valueOf 16 text.toList = value.toNat

lemma isFullHex_paddedHex (value : UInt64) : IsFullHex value (paddedHex 16 value.toNat) := by
  have hdigits : ∀ digit < 16, digit.digitChar ∈ "0123456789abcdef".toList := by decide
  have hchars : (paddedHex 16 value.toNat).toList =
      List.replicate (16 - (Nat.toDigits 16 value.toNat).length) '0' ++
        Nat.toDigits 16 value.toNat := by
    rw [paddedHex, fillLeft, String.toList_ofList, List.leftpad, toList_hex]
  refine ⟨?_, ?_, ?_⟩
  · rw [← String.length_toList]
    exact length_paddedHex (by omega) value.toNat_lt
  · rw [hchars, List.forall_mem_append]
    constructor
    · intro char hmem
      rw [List.eq_of_mem_replicate hmem]
      decide
    · intro char hmem
      obtain ⟨digit, hdigit, rfl⟩ := exists_of_mem_toDigits (by omega) hmem
      exact hdigits digit hdigit
  · rw [hchars, valueOf_zeros_append]
    exact valueOf_toDigits (by omega) (by omega) _

section Texts

variable {summary summary' : SectionSummary}

/-- All that the report says about a section is printable, but for the name. -/
lemma eq_name_or_printable_of_mem_sectionTexts (h : summary.Labelled) :
    ∀ text ∈ sectionTexts summary, text = summary.name ∨ Printable text := by
  obtain ⟨code, hkind⟩ := h.kind
  obtain ⟨flags, hflags⟩ := h.flags
  simp only [sectionTexts, List.forall_mem_cons]
  refine ⟨.inr (printable_bracketed _), .inl trivial, .inr ?_, .inr (printable_decimal _),
    .inr (printable_paddedHex _ _), .inr (printable_paddedHex _ _), .inr ?_, List.forall_mem_nil _⟩
  · rw [hkind]
    exact SectionHeader.printable_typeLabel code
  · rw [hflags]
    exact SectionHeader.printable_flagLetters flags

lemma printable_of_mem_sectionTexts (h : summary.Legible) :
    ∀ text ∈ sectionTexts summary, Printable text := by
  intro text htext
  rcases eq_name_or_printable_of_mem_sectionTexts h.toLabelled text htext with rfl | hprintable
  · exact h.name
  · exact hprintable

/-- No cell ends in a blank, though the one with the index may have some in it. -/
lemma getLast?_ne_of_mem_sectionRow (h : summary.Labelled) (hname : ' ' ∉ summary.name.toList) :
    ∀ cell ∈ sectionRow summary, cell.getLast? ≠ some ' ' := by
  have hlast {text : String} (h : ' ' ∉ text.toList) : text.toList.getLast? ≠ some ' ' :=
    fun hblank => h (List.mem_of_getLast? hblank)
  obtain ⟨code, hkind⟩ := h.kind
  obtain ⟨flags, hflags⟩ := h.flags
  rw [sectionRow_eq, List.forall_mem_map]
  simp only [sectionTexts, List.forall_mem_cons]
  refine ⟨?_, hlast hname, ?_, hlast (space_not_mem_decimal _),
    hlast (space_not_mem_paddedHex _ _), hlast (space_not_mem_paddedHex _ _), ?_,
    List.forall_mem_nil _⟩
  · rw [getLast?_bracketed]
    decide
  · rw [hkind]
    exact hlast (SectionHeader.space_not_mem_typeLabel code)
  · rw [hflags]
    exact hlast (SectionHeader.space_not_mem_flagLetters flags)

lemma shownAlike_of_sectionRow_eq (h : sectionRow summary = sectionRow summary') :
    summary.ShownAlike summary' := by
  rw [sectionRow_eq, sectionRow_eq] at h
  have htexts : sectionTexts summary = sectionTexts summary' :=
    List.map_injective_iff.mpr (fun _ _ => String.toList_inj.mp) h
  simp only [sectionTexts, List.cons.injEq, bracketed_injective.eq_iff, decimal_injective.eq_iff,
    (paddedHex_injective 16).eq_iff, UInt64.toNat_inj, and_true] at htexts
  obtain ⟨hindex, hname, hkind, hsize, hvma, hoffset, hflags⟩ := htexts
  exact ⟨hindex, hname, hkind, hsize, hvma, hoffset, hflags⟩

end Texts

/-! ### The lines of the table -/

lemma isWord_of_mem_sectionHeading : ∀ cell ∈ sectionHeading, Columns.IsWord cell := by
  have hwords : ∀ cell ∈ sectionHeading, cell ≠ [] ∧ ' ' ∉ cell := by simp [sectionHeading]
  exact fun cell hcell => ⟨(hwords cell hcell).1, (hwords cell hcell).2⟩

lemma plain_of_printable {texts : List String} (h : ∀ text ∈ texts, Printable text) :
    ∀ cell ∈ texts.map String.toList, '\n' ∉ cell ∧ Width.ofChars cell = cell.length := by
  rw [List.forall_mem_map]
  exact fun text htext => ⟨(h text htext).oneLine, (h text htext).ofChars_eq⟩

lemma plain_of_mem_sectionHeading :
    ∀ cell ∈ sectionHeading, '\n' ∉ cell ∧ Width.ofChars cell = cell.length := by
  rw [sectionHeading]
  exact plain_of_printable (by simp [Printable])

/-- The widths of the columns in the report. -/
def sectionWidths (summaries : List SectionSummary) : List Nat :=
  Columns.widths sectionHeading (summaries.map sectionRow)

/-- The line of a section that has only one, in columns of the given widths. -/
def sectionLine (widths : List Nat) (summary : SectionSummary) : String :=
  String.ofList (Columns.rowLine widths (sectionRow summary) 0)

section Lines

variable {summaries summaries' : List SectionSummary}

/-- The columns have room for the headings and for all texts. -/
lemma fitsIn_sectionWidths (h : ∀ summary ∈ summaries, summary.Legible) :
    List.Forall₂ Columns.FitsIn (sectionWidths summaries) sectionHeading ∧
      ∀ summary ∈ summaries,
        List.Forall₂ Columns.FitsIn (sectionWidths summaries) (sectionRow summary) := by
  obtain ⟨hheading, hrows⟩ := List.forall_mem_cons.mp (cellWidth_le_widths summaries)
  constructor
  · exact Columns.forall₂_fitsIn hheading plain_of_mem_sectionHeading
  · intro summary hsummary
    exact Columns.forall₂_fitsIn (hrows _ (List.mem_map_of_mem hsummary))
      (plain_of_printable (printable_of_mem_sectionTexts (h summary hsummary)))

lemma sectionLines_eq (h : ∀ summary ∈ summaries, summary.Legible) (widths : List Nat) :
    (summaries.map (sectionLines widths)).flatten = summaries.map (sectionLine widths) := by
  rw [← List.flatMap_def, List.map_eq_flatMap]
  apply List.flatMap_congr
  intro summary hsummary
  have hplain := plain_of_printable (printable_of_mem_sectionTexts (h summary hsummary))
  have hrow : Columns.rowLines widths (sectionRow summary) =
      [Columns.rowLine widths (sectionRow summary) 0] := by
    apply Columns.rowLines_of_not_mem
    · exact List.cons_ne_nil _ _
    · exact fun cell hcell => (hplain cell hcell).1
  rw [sectionLines, hrow]
  rfl

/-- The report with a line for each section. -/
lemma sections_eq_of_legible (hne : summaries ≠ []) (h : ∀ summary ∈ summaries, summary.Legible)
    (paint : Paint) :
    sections paint summaries =
      unlines (paint.apply .bold "Section Headers:" ::
        ((headingLine (sectionWidths summaries) ::
          summaries.map (sectionLine (sectionWidths summaries))) ++ flagKey)) := by
  rw [sections_eq_unlines_cons hne rfl paint, ← sectionLines_eq h]
  rfl

lemma oneLine_of_mem_sectionReport (h : ∀ summary ∈ summaries, summary.Legible)
    (widths : List Nat) (paint : Paint) :
    ∀ line ∈ paint.apply .bold "Section Headers:" ::
        ((headingLine widths :: summaries.map (sectionLine widths)) ++ flagKey),
      OneLine line := by
  have hkey : ∀ line ∈ flagKey, OneLine line :=
    fun line hline => (printable_of_mem_flagKey line hline).oneLine
  have htable : ∀ line ∈ headingLine widths :: (summaries.map (sectionLines widths)).flatten,
      OneLine line := oneLine_of_mem_table widths
  rw [sectionLines_eq h] at htable
  rw [List.forall_mem_cons, List.forall_mem_append]
  exact ⟨(paint.oneLine_apply .bold).mpr (by decide), htable, hkey⟩

/-- Equal reports have the same lines of sections, and columns of the same widths. -/
lemma of_sections_eq {paint paint' : Paint} (hne : summaries ≠ []) (hne' : summaries' ≠ [])
    (h : ∀ summary ∈ summaries, summary.Legible) (h' : ∀ summary ∈ summaries', summary.Legible)
    (heq : sections paint summaries = sections paint' summaries') :
    sectionWidths summaries = sectionWidths summaries' ∧
      summaries.map (sectionLine (sectionWidths summaries)) =
        summaries'.map (sectionLine (sectionWidths summaries')) := by
  rw [sections_eq_of_legible hne h, sections_eq_of_legible hne' h'] at heq
  have hlines := unlines_inj (oneLine_of_mem_sectionReport h _ _)
    (oneLine_of_mem_sectionReport h' _ _) heq
  obtain ⟨hheading, hrest⟩ := List.cons.inj (List.cons.inj hlines).2
  refine ⟨?_, List.append_cancel_right hrest⟩
  exact Columns.widths_eq_of_rowLine_eq (fitsIn_sectionWidths h).1 (fitsIn_sectionWidths h').1
    (List.cons_ne_nil _ _) isWord_of_mem_sectionHeading (String.ofList_injective hheading)

/-- In columns of the same widths the lines of sections are told apart by what they show. -/
lemma shownAlike_of_sectionLine_eq {widths : List Nat} {summary summary' : SectionSummary}
    (h : summary.Legible) (h' : summary'.Legible)
    (hname : ' ' ∉ summary.name.toList) (hname' : ' ' ∉ summary'.name.toList)
    (hfits : List.Forall₂ Columns.FitsIn widths (sectionRow summary))
    (hfits' : List.Forall₂ Columns.FitsIn widths (sectionRow summary'))
    (heq : sectionLine widths summary = sectionLine widths summary') :
    summary.ShownAlike summary' := by
  apply shownAlike_of_sectionRow_eq
  exact Columns.rowLine_inj hfits hfits' (List.cons_ne_nil _ _) (List.cons_ne_nil _ _)
    (getLast?_ne_of_mem_sectionRow h.toLabelled hname)
    (getLast?_ne_of_mem_sectionRow h'.toLabelled hname') (String.ofList_injective heq)

end Lines

/-- The line has what the report says about the section, each text at the start of its column. -/
def RowAt (starts : List Nat) (summary : SectionSummary) (line : String) : Prop :=
  ∃ address offset, IsFullHex summary.vma address ∧ IsFullHex summary.fileOffset offset ∧
    Columns.Placed starts
      ([bracketed summary.index, summary.name, summary.kind, decimal summary.size.toNat, address,
        offset, summary.flags].map String.toList) line.toList

/-- The text is a report with a line of headings and a line for each section, in their order. All
these lines are of one length and have the same seven columns. -/
def InColumns (paint : Paint) (summaries : List SectionSummary) (text : String) : Prop :=
  ∃ starts heading rows,
    text = unlines (paint.apply .bold "Section Headers:" :: (heading :: rows ++ flagKey)) ∧
    (∀ line ∈ heading :: rows, OneLine line ∧ line.length = heading.length) ∧
    starts.length = 7 ∧ Columns.Placed starts sectionHeading heading.toList ∧
    List.Forall₂ (RowAt starts) summaries rows

section Report

variable {summaries summaries' : List SectionSummary}

lemma inColumns_sections (hne : summaries ≠ []) (h : ∀ summary ∈ summaries, summary.Legible)
    (paint : Paint) : InColumns paint summaries (sections paint summaries) := by
  obtain ⟨hheading, hrows⟩ := fitsIn_sectionWidths h
  have hsome : ∀ summary, sectionRow summary ≠ [] := fun _ => List.cons_ne_nil _ _
  have hlength : ∀ row, row ≠ [] → List.Forall₂ Columns.FitsIn (sectionWidths summaries) row →
      (String.ofList (Columns.rowLine (sectionWidths summaries) row 0)).length =
        (headingLine (sectionWidths summaries)).length := by
    intro row hne hrow
    have hline := Columns.length_rowLine hrow hne
    have htop := Columns.length_rowLine hheading (List.cons_ne_nil _ _)
    rw [headingLine, String.length_ofList, String.length_ofList]
    omega
  have honeLine := (List.forall_mem_append.mp
    (List.forall_mem_cons.mp (oneLine_of_mem_sectionReport h (sectionWidths summaries) paint)).2).1
  refine ⟨Columns.startsFrom 1 (sectionWidths summaries), headingLine (sectionWidths summaries),
    summaries.map (sectionLine (sectionWidths summaries)), sections_eq_of_legible hne h paint,
    ?_, ?_, ?_, ?_⟩
  · intro line hline
    refine ⟨honeLine line hline, ?_⟩
    rcases List.mem_cons.mp hline with rfl | hmem
    · rfl
    · obtain ⟨summary, hsummary, rfl⟩ := List.mem_map.mp hmem
      exact hlength _ (hsome summary) (hrows summary hsummary)
  · rw [Columns.length_startsFrom, hheading.length_eq, length_sectionHeading]
  · rw [headingLine, String.toList_ofList]
    exact Columns.placed_rowLine hheading (List.cons_ne_nil _ _)
  · rw [List.forall₂_map_right_iff, List.forall₂_same]
    intro summary hsummary
    refine ⟨_, _, isFullHex_paddedHex summary.vma, isFullHex_paddedHex summary.fileOffset, ?_⟩
    rw [sectionLine, String.toList_ofList]
    exact Columns.placed_rowLine (hrows summary hsummary) (hsome summary)

lemma shownAlike_of_sections_eq {paint paint' : Paint} (hne : summaries ≠ [])
    (hne' : summaries' ≠ []) (h : ∀ summary ∈ summaries, summary.Legible)
    (h' : ∀ summary ∈ summaries', summary.Legible)
    (hnames : ∀ summary ∈ summaries ++ summaries', ' ' ∉ summary.name.toList)
    (heq : sections paint summaries = sections paint' summaries') :
    List.Forall₂ SectionSummary.ShownAlike summaries summaries' := by
  obtain ⟨hwidths, hlines⟩ := of_sections_eq hne hne' h h' heq
  obtain ⟨-, hrows⟩ := fitsIn_sectionWidths h
  obtain ⟨-, hrows'⟩ := fitsIn_sectionWidths h'
  obtain ⟨hnames, hnames'⟩ := List.forall_mem_append.mp hnames
  rw [← hwidths] at hlines hrows'
  have hpairs := List.forall₂_eq_eq_eq ▸ hlines
  rw [List.forall₂_map_left_iff, List.forall₂_map_right_iff, List.forall₂_iff_zip] at hpairs
  obtain ⟨hlength, hpairs⟩ := hpairs
  refine List.forall₂_iff_zip.mpr ⟨hlength, fun {summary summary'} hpair => ?_⟩
  obtain ⟨hmem, hmem'⟩ := List.of_mem_zip hpair
  exact shownAlike_of_sectionLine_eq (h _ hmem) (h' _ hmem') (hnames _ hmem) (hnames' _ hmem')
    (hrows _ hmem) (hrows' _ hmem') (hpairs hpair)

end Report

/-- With printable names the table is aligned. Where the names have no blanks in them, two lists
of sections with equal reports are as long as each other, and every two sections in the same place
are shown alike. -/
theorem sections_aligned_readable {summaries : List SectionSummary} (hne : summaries ≠ [])
    (h : ∀ summary ∈ summaries, summary.Legible) (paint : Paint) :
    InColumns paint summaries (sections paint summaries) ∧
      ∀ paint' summaries', summaries' ≠ [] → (∀ summary ∈ summaries', summary.Legible) →
        (∀ summary ∈ summaries ++ summaries', ' ' ∉ summary.name.toList) →
        sections paint summaries = sections paint' summaries' →
        summaries.length = summaries'.length ∧
          List.Forall₂ SectionSummary.ShownAlike summaries summaries' := by
  refine ⟨inColumns_sections hne h paint, ?_⟩
  intro paint' summaries' hne' h' hnames heq
  have halike := shownAlike_of_sections_eq hne hne' h h' hnames heq
  exact ⟨halike.length_eq, halike⟩

/-- The table does not show links. -/
theorem sections_aligned_linked :
    let names : NameTable := { bytes := [0x2e, 0x61, 0, 0x62, 0] }
    let summary := SectionSummary.ofHeader names 100 (plainSection 0)
    let linked := SectionSummary.ofHeader names 100 { plainSection 0 with link := 7 }
    summary.Legible ∧ linked.Legible ∧ summary.name = ".a" ∧ linked.name = ".a" ∧
      InColumns .ansi [summary] (sections .ansi [summary]) ∧
      sections .ansi [summary] = sections .ansi [linked] ∧
      List.Forall₂ SectionSummary.ShownAlike [summary] [linked] := by
  intro names summary linked
  have hname : summary.name = ".a" := by decide +kernel
  have hname' : linked.name = ".a" := by decide +kernel
  have hprintable : Printable ".a" := by decide
  have hsummary : summary.Legible :=
    ⟨SectionSummary.labelled_ofHeader _ _ _, hname ▸ hprintable⟩
  have hlinked : linked.Legible :=
    ⟨SectionSummary.labelled_ofHeader _ _ _, hname' ▸ hprintable⟩
  have hnames : ∀ row ∈ [summary] ++ [linked], ' ' ∉ row.name.toList := by
    simp [hname, hname']
  obtain ⟨hcolumns, hread⟩ := sections_aligned_readable (List.cons_ne_nil summary [])
    (List.forall_mem_singleton.mpr hsummary) .ansi
  obtain ⟨-, halike⟩ := hread .ansi [linked] (List.cons_ne_nil linked [])
    (List.forall_mem_singleton.mpr hlinked) hnames rfl
  exact ⟨hsummary, hlinked, hname, hname', hcolumns, rfl, halike⟩

end Report

end ElfInspect
