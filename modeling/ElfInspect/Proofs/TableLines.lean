import ElfInspect.Proofs.OneLine
import ElfInspect.Text.Columns

/-!
# The lines of a table

A cell has one line more than it has breaks, and a row is as high as its highest cell. On the
first line of a row the first cell stands behind one blank, and where that cell has a single line
the other lines of the row are blank as far as it goes.
-/

namespace ElfInspect.Columns

/-! ### Cells -/

lemma length_lines (cell : Cell) : (lines cell).length = cell.count '\n' + 1 := by
  unfold lines
  induction cell with
  | nil => rfl
  | cons char cell ih =>
    rw [List.splitOn_cons_eq_if_modifyHead, List.count_cons]
    split
    · rw [List.length_cons, ih]
    · rw [List.length_modifyHead, ih, Nat.add_zero]

lemma break_not_mem_of_mem_lines {cell line : Cell} (h : line ∈ lines cell) : '\n' ∉ line := by
  unfold lines at h
  induction cell generalizing line with
  | nil =>
    rw [List.splitOn_nil, List.mem_singleton] at h
    rw [h]
    exact List.not_mem_nil
  | cons char cell ih =>
    rw [List.splitOn_cons_eq_if_modifyHead] at h
    split at h
    · rcases List.mem_cons.mp h with rfl | hmem
      · exact List.not_mem_nil
      · exact ih hmem
    · rename_i hchar
      obtain ⟨first, rest, hsplit⟩ := List.exists_cons_of_ne_nil (List.splitOn_ne_nil '\n' cell)
      rw [hsplit, List.modifyHead_cons] at h
      rcases List.mem_cons.mp h with rfl | hmem
      · rw [List.mem_cons, not_or]
        refine ⟨fun heq => hchar (by rw [← heq]; rfl), ih ?_⟩
        rw [hsplit]
        exact List.mem_cons_self
      · apply ih
        rw [hsplit]
        exact List.mem_cons_of_mem _ hmem

lemma cellWidth_of_not_mem {cell : Cell} (h : '\n' ∉ cell) :
    cellWidth cell = Width.ofChars cell := by
  rw [cellWidth, lines_of_not_mem h]
  exact Nat.zero_max _

section Characters

variable {P : Char → Prop}

lemma forall_mem_intercalate {gap : List Char} {pieces : List (List Char)}
    (hgap : ∀ char ∈ gap, P char) (h : ∀ piece ∈ pieces, ∀ char ∈ piece, P char) :
    ∀ char ∈ gap.intercalate pieces, P char := by
  induction pieces with
  | nil => exact List.forall_mem_nil _
  | cons piece pieces ih =>
    obtain ⟨hpiece, hpieces⟩ := List.forall_mem_cons.mp h
    cases pieces with
    | nil => rwa [List.intercalate_singleton]
    | cons next pieces =>
      rw [List.intercalate_cons_cons, List.forall_mem_append, List.forall_mem_append]
      exact ⟨⟨hpiece, hgap⟩, ih hpieces⟩

lemma mem_intercalate_of_mem {gap piece : List Char} {pieces : List (List Char)} {char : Char}
    (h : piece ∈ pieces) (hchar : char ∈ piece) : char ∈ gap.intercalate pieces := by
  induction pieces with
  | nil => cases h
  | cons first pieces ih =>
    cases pieces with
    | nil =>
      cases List.mem_singleton.mp h
      rwa [List.intercalate_singleton]
    | cons next pieces =>
      rw [List.intercalate_cons_cons]
      rcases List.mem_cons.mp h with rfl | hmem
      · exact List.mem_append_left _ (List.mem_append_left _ hchar)
      · exact List.mem_append_right _ (ih hmem)

/-- The lines of a cell have only its own characters in them. -/
lemma forall_mem_lines {cell : Cell} (h : ∀ char ∈ cell, P char) :
    ∀ line ∈ lines cell, ∀ char ∈ line, P char := by
  have hcell : ['\n'].intercalate (lines cell) = cell := List.intercalate_splitOn '\n'
  intro line hline char hchar
  apply h
  rw [← hcell]
  exact mem_intercalate_of_mem hline hchar

lemma forall_mem_fill (hblank : P ' ') {line : Cell} (h : ∀ char ∈ line, P char) (width : Nat) :
    ∀ char ∈ fill width line, P char := by
  simp only [fill, List.cons_append, List.forall_mem_cons, List.forall_mem_append]
  refine ⟨hblank, ⟨h, fun char hchar => ?_⟩, hblank, List.forall_mem_nil _⟩
  rw [List.eq_of_mem_replicate hchar]
  exact hblank

/-- What holds of blanks and of the lines of all cells holds of every line of the row. -/
lemma forall_mem_rowLine (hblank : P ' ') {row : Row}
    (h : ∀ cell ∈ row, ∀ line ∈ lines cell, ∀ char ∈ line, P char) (widths : List Nat)
    (index : Nat) : ∀ char ∈ rowLine widths row index, P char := by
  apply forall_mem_intercalate (List.forall_mem_singleton.mpr hblank)
  intro piece hpiece
  rw [List.mem_iff_getElem?] at hpiece
  obtain ⟨i, hi⟩ := hpiece
  obtain ⟨width, cell, -, hcell, rfl⟩ := List.getElem?_zipWith_eq_some.mp hi
  apply forall_mem_fill hblank
  cases hline : (lines cell)[index]? with
  | none => exact List.forall_mem_nil _
  | some line => exact h cell (List.mem_of_getElem? hcell) line (List.mem_of_getElem? hline)

lemma break_not_mem_rowLine (widths : List Nat) (row : Row) (index : Nat) :
    '\n' ∉ rowLine widths row index := by
  intro hmem
  refine forall_mem_rowLine (P := (· ≠ '\n')) (by decide) ?_ widths index _ hmem rfl
  rintro cell - line hline _ hchar rfl
  exact break_not_mem_of_mem_lines hline hchar

/-- A table has no characters but blanks, breaks and those of its cells. -/
lemma forall_mem_render (hblank : P ' ') (hbreak : P '\n') {heading : Row} {rows : List Row}
    (h : ∀ row ∈ heading :: rows, ∀ cell ∈ row, ∀ char ∈ cell, P char) :
    ∀ char ∈ (render heading rows).toList, P char := by
  rw [render, String.toList_ofList]
  apply forall_mem_intercalate (List.forall_mem_singleton.mpr hbreak)
  intro line hline
  obtain ⟨row, hrow, hline⟩ := List.mem_flatMap.mp hline
  obtain ⟨index, -, rfl⟩ := List.mem_map.mp hline
  exact forall_mem_rowLine hblank (fun cell hcell => forall_mem_lines (h row hrow cell hcell)) _ _

end Characters

/-! ### Rows -/

section Rows

variable {width : Nat} {rest : List Nat} {cell : Cell} {cells : Row}

lemma exists_intercalate_cons (piece : List Char) (pieces : List (List Char)) :
    ∃ rest, [' '].intercalate (piece :: pieces) = piece ++ rest := by
  cases pieces with
  | nil => exact ⟨[], by rw [List.intercalate_singleton, List.append_nil]⟩
  | cons next pieces =>
    refine ⟨[' '] ++ [' '].intercalate (next :: pieces), ?_⟩
    rw [List.intercalate_cons_of_ne_nil (List.cons_ne_nil _ _), List.append_assoc]

/-- The first cell stands in front on the first line. -/
lemma exists_rowLine_zero (h : '\n' ∉ cell) :
    ∃ tail, rowLine (width :: rest) (cell :: cells) 0 = ' ' :: cell ++ tail := by
  obtain ⟨tail, htail⟩ := exists_intercalate_cons (fill width cell)
    (List.zipWith (fun width cell => fill width ((lines cell)[0]?.getD [])) rest cells)
  refine ⟨List.replicate (width - Width.ofChars cell) ' ' ++ [' '] ++ tail, ?_⟩
  rw [rowLine, List.zipWith_cons_cons, lines_of_not_mem h]
  refine htail.trans ?_
  simp only [fill, List.append_assoc]

/-- The further lines are blank below it. -/
lemma exists_rowLine_succ (h : '\n' ∉ cell) (hwidth : cell.length ≤ width) (index : Nat) :
    ∃ tail, rowLine (width :: rest) (cell :: cells) (index + 1) =
      List.replicate (cell.length + 1) ' ' ++ tail := by
  obtain ⟨tail, htail⟩ := exists_intercalate_cons (fill width [])
    (List.zipWith (fun width cell => fill width ((lines cell)[index + 1]?.getD [])) rest cells)
  have hblank : fill width [] = List.replicate (cell.length + 1) ' ' ++
      List.replicate (width - cell.length + 1) ' ' := by
    have hzero : Width.ofChars [] = 0 := rfl
    have hsum : cell.length + 1 + (width - cell.length + 1) = width + 1 + 1 := by omega
    rw [fill, hzero, List.replicate_append_replicate, hsum, List.replicate_succ',
      List.replicate_succ]
    rfl
  refine ⟨List.replicate (width - cell.length + 1) ' ' ++ tail, ?_⟩
  rw [rowLine, List.zipWith_cons_cons, lines_of_not_mem h]
  refine htail.trans ?_
  rw [hblank, List.append_assoc]

/-- A row of cells with one line each has one line. -/
lemma rowLines_of_not_mem (widths : List Nat) {row : Row} (hne : row ≠ [])
    (h : ∀ cell ∈ row, '\n' ∉ cell) : rowLines widths row = [rowLine widths row 0] := by
  have hones : row.map (fun cell => (lines cell).length) = List.replicate row.length 1 := by
    rw [← List.map_const, List.map_inj_left]
    intro cell hcell
    rw [length_lines, List.count_eq_zero.mpr (h cell hcell)]
    rfl
  have hheight : height row = 1 := by
    have hlength := List.length_pos_iff.mpr hne
    rw [height, hones]
    generalize row.length = count at hlength
    induction count with
    | zero => cases hlength
    | succ count ih =>
      cases count with
      | zero => rfl
      | succ count => exact ih (Nat.succ_pos _)
  rw [rowLines, hheight]
  rfl

end Rows

end ElfInspect.Columns
