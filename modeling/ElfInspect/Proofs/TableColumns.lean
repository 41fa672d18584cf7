import ElfInspect.Proofs.TableLines
import Mathlib.Data.List.Forall2

/-!
# The columns of a table

In a row of cells with one line each every cell begins where its column does, in the line of that
row as in all others, and blanks fill the line up to the start of the next column. So the cells
can be read back from the line where the widths are known, and the widths from the line of a
heading.
-/

namespace ElfInspect.Columns

/-! ### Cells in columns -/

/-- The cell is one line, it takes a column for each of its characters, and the width has room for
it. -/
structure FitsIn (width : Nat) (cell : Cell) : Prop where
  break_not_mem : '\n' ∉ cell
  ofChars_eq : Width.ofChars cell = cell.length
  length_le : cell.length ≤ width

/-- A cell and the blanks behind it, up to the next cell. -/
def block (width : Nat) (cell : Cell) : List Char :=
  cell ++ List.replicate (width - cell.length + 3) ' '

def blocks (widths : List Nat) (row : Row) : List Char :=
  (List.zipWith block widths row).flatten

section Blocks

variable {width : Nat} {widths : List Nat} {cell cell' : Cell} {row row' : Row}

lemma blocks_cons (width : Nat) (widths : List Nat) (cell : Cell) (row : Row) :
    blocks (width :: widths) (cell :: row) = block width cell ++ blocks widths row :=
  rfl

lemma length_block (h : FitsIn width cell) : (block width cell).length = width + 3 := by
  have hle := h.length_le
  rw [block, List.length_append, List.length_replicate]
  omega

lemma length_blocks (h : List.Forall₂ FitsIn widths row) :
    (blocks widths row).length = widths.foldr (fun width total => width + 3 + total) 0 := by
  induction h with
  | nil => rfl
  | cons hcell _ ih => rw [blocks_cons, List.length_append, length_block hcell, ih, List.foldr_cons]

/-- With two blanks more behind it a line is the blocks of its cells, behind one blank. -/
lemma rowLine_append_blanks (h : List.Forall₂ FitsIn widths row) (hne : row ≠ []) :
    rowLine widths row 0 ++ [' ', ' '] = ' ' :: blocks widths row := by
  unfold rowLine
  induction h with
  | nil => exact (hne rfl).elim
  | @cons width cell widths row hcell hrow ih =>
    have hfill : fill width ((lines cell)[0]?.getD []) =
        ' ' :: cell ++ List.replicate (width - cell.length) ' ' ++ [' '] := by
      rw [lines_of_not_mem hcell.break_not_mem, List.getElem?_cons_zero, Option.getD_some, fill,
        hcell.ofChars_eq]
    have hblock : block width cell =
        cell ++ (List.replicate (width - cell.length) ' ' ++ [' ', ' ', ' ']) := by
      rw [block, List.replicate_add]
      rfl
    rw [List.zipWith_cons_cons, hfill, blocks_cons, hblock]
    cases hrow with
    | nil =>
      rw [List.zipWith_nil_right, List.intercalate_singleton]
      simp [blocks]
    | cons hnext hrow =>
      have hrest := ih (List.cons_ne_nil _ _)
      rw [List.zipWith_cons_cons] at hrest ⊢
      rw [List.intercalate_cons_of_ne_nil (List.cons_ne_nil _ _), List.append_assoc,
        List.append_assoc, hrest]
      simp

lemma length_rowLine (h : List.Forall₂ FitsIn widths row) (hne : row ≠ []) :
    (rowLine widths row 0).length + 2 =
      widths.foldr (fun width total => width + 3 + total) 0 + 1 := by
  have hlength := congrArg List.length (rowLine_append_blanks h hne)
  rw [List.length_append] at hlength
  rw [← length_blocks h]
  exact hlength

end Blocks

/-! ### Starts -/

/-- The starts of columns, from the first one on. -/
def startsFrom : Nat → List Nat → List Nat
  | _, [] => []
  | start, width :: widths => start :: startsFrom (start + width + 3) widths

/-- Every cell of the row stands whole in the line from the start of its column on, and behind it
there are only blanks, one at least, up to the start of the next column or to the end. -/
def Placed (starts : List Nat) (row : Row) (line : List Char) : Prop :=
  starts.length = row.length ∧
    ∀ column start cell, starts[column]? = some start → row[column]? = some cell →
      ∃ blanks, 0 < blanks ∧
        (line.take (starts[column + 1]?.getD line.length)).drop start =
          cell ++ List.replicate blanks ' '

section Starts

variable {widths : List Nat} {row : Row} {front line : List Char}

@[simp] lemma length_startsFrom (start : Nat) (widths : List Nat) :
    (startsFrom start widths).length = widths.length := by
  induction widths generalizing start with
  | nil => rfl
  | cons width widths ih => rw [startsFrom, List.length_cons, ih, List.length_cons]

/-- The last cell of a line has blanks behind it to the end. -/
lemma drop_of_append_last {width : Nat} {cell : Cell}
    (h : line ++ [' ', ' '] = front ++ block width cell) :
    line.drop front.length = cell ++ List.replicate (width - cell.length + 1) ' ' := by
  have hblock : block width cell =
      cell ++ List.replicate (width - cell.length + 1) ' ' ++ [' ', ' '] := by
    have hcount : width - cell.length + 3 = width - cell.length + 1 + 2 := rfl
    rw [block, hcount, List.replicate_add, List.append_assoc]
    rfl
  rw [hblock, ← List.append_assoc] at h
  rw [List.append_cancel_right h, List.drop_left]

/-- Every other one has its block. -/
lemma drop_take_of_append_block {text rest : List Char}
    (h : line ++ [' ', ' '] = front ++ (text ++ rest)) (hrest : 2 ≤ rest.length) :
    (line.take (front.length + text.length)).drop front.length = text := by
  have hlength := congrArg List.length h
  simp only [List.length_append, List.length_cons, List.length_nil] at hlength
  have hshort : front.length + text.length ≤ line.length := by omega
  rw [← List.take_append_of_le_length hshort, h, ← List.append_assoc,
    List.take_left' List.length_append, List.drop_left]

lemma placed_of_append_blanks (h : List.Forall₂ FitsIn widths row)
    (hline : line ++ [' ', ' '] = front ++ blocks widths row) :
    Placed (startsFrom front.length widths) row line := by
  refine ⟨by rw [length_startsFrom, h.length_eq], ?_⟩
  -- With each column its block goes over to the front, so that any front has to do.
  induction h generalizing front with
  | nil => exact fun column _ _ hstart => nomatch hstart
  | @cons width cell widths row hcell hrow ih =>
    have hblock := length_block hcell
    rw [blocks_cons] at hline
    intro column start found hstart hfound
    cases column with
    | succ column =>
      have hfront : (front ++ block width cell).length = front.length + width + 3 := by
        rw [List.length_append, hblock, Nat.add_assoc]
      have hrest := @ih (front ++ block width cell) (by rw [hline, List.append_assoc])
      rw [hfront] at hrest
      exact hrest column start found hstart hfound
    | zero =>
      cases hstart
      cases hfound
      cases hrow with
      | nil =>
        have hlast : line ++ [' ', ' '] = front ++ block width cell := by
          rw [hline]
          exact congrArg (front ++ ·) (List.append_nil _)
        refine ⟨width - cell.length + 1, Nat.succ_pos _, ?_⟩
        change (line.take line.length).drop front.length = _
        rw [List.take_length, drop_of_append_last hlast]
      | @cons next cell' widths row hnext hrow =>
        have hlong : 2 ≤ (blocks (next :: widths) (cell' :: row)).length := by
          rw [blocks_cons, List.length_append, length_block hnext]
          omega
        have hdrop := drop_take_of_append_block hline hlong
        rw [hblock] at hdrop
        exact ⟨width - cell.length + 3, Nat.succ_pos _, hdrop⟩

/-- The line of a row that fits has its cells at the starts of the columns. -/
lemma placed_rowLine (h : List.Forall₂ FitsIn widths row) (hne : row ≠ []) :
    Placed (startsFrom 1 widths) row (rowLine widths row 0) :=
  @placed_of_append_blanks _ _ [' '] _ h (rowLine_append_blanks h hne)

end Starts

/-! ### Cells read back -/

section ReadBack

variable {width width' : Nat} {widths widths' : List Nat} {cell cell' : Cell} {row row' : Row}

/-- What does not begin with a blank can be told from blanks in front of it. -/
lemma blanks_append_inj {text text' : List Char} {count count' : Nat}
    (h : text.head? ≠ some ' ') (h' : text'.head? ≠ some ' ')
    (heq : List.replicate count ' ' ++ text = List.replicate count' ' ' ++ text') :
    count = count' ∧ text = text' := by
  have hdrop (count : Nat) (text : List Char) (htext : text.head? ≠ some ' ') :
      (List.replicate count ' ' ++ text).dropWhile (· = ' ') = text := by
    rw [List.dropWhile_append_of_pos fun char hmem => by simp [List.eq_of_mem_replicate hmem]]
    cases text with
    | nil => rfl
    | cons first text =>
      rw [List.head?_cons, ne_eq, Option.some.injEq] at htext
      rw [List.dropWhile_cons_of_neg (by simpa using htext)]
  have htext : text = text' := by
    rw [← hdrop count text h, heq, hdrop count' text' h']
  rw [htext] at heq
  have hlength := congrArg List.length (List.append_cancel_right heq)
  rw [List.length_replicate, List.length_replicate] at hlength
  exact ⟨hlength, htext⟩

/-- What does not end in a blank can be told from blanks behind it. -/
lemma append_blanks_inj {count count' : Nat} (h : cell.getLast? ≠ some ' ')
    (h' : cell'.getLast? ≠ some ' ')
    (heq : cell ++ List.replicate count ' ' = cell' ++ List.replicate count' ' ') :
    cell = cell' := by
  have hreverse := congrArg List.reverse heq
  rw [List.reverse_append, List.reverse_append, List.reverse_replicate,
    List.reverse_replicate] at hreverse
  rw [← List.head?_reverse] at h h'
  exact List.reverse_injective (blanks_append_inj h h' hreverse).2

lemma block_inj (h : cell.getLast? ≠ some ' ') (h' : cell'.getLast? ≠ some ' ')
    (heq : block width cell = block width cell') : cell = cell' :=
  append_blanks_inj h h' heq

/-- Where the widths are known, the cells can be read back. -/
lemma blocks_inj (h : List.Forall₂ FitsIn widths row) (h' : List.Forall₂ FitsIn widths row')
    (hends : ∀ cell ∈ row, cell.getLast? ≠ some ' ')
    (hends' : ∀ cell ∈ row', cell.getLast? ≠ some ' ')
    (heq : blocks widths row = blocks widths row') : row = row' := by
  induction h generalizing row' with
  | nil =>
    cases h'
    rfl
  | cons hcell _ ih =>
    cases h' with
    | cons hcell' hrow' =>
      obtain ⟨hend, hends⟩ := List.forall_mem_cons.mp hends
      obtain ⟨hend', hends'⟩ := List.forall_mem_cons.mp hends'
      obtain ⟨hfirst, hrest⟩ :=
        List.append_inj heq ((length_block hcell).trans (length_block hcell').symm)
      rw [block_inj hend hend' hfirst, ih hrow' hends hends' hrest]

lemma rowLine_inj (h : List.Forall₂ FitsIn widths row) (h' : List.Forall₂ FitsIn widths row')
    (hne : row ≠ []) (hne' : row' ≠ []) (hends : ∀ cell ∈ row, cell.getLast? ≠ some ' ')
    (hends' : ∀ cell ∈ row', cell.getLast? ≠ some ' ')
    (heq : rowLine widths row 0 = rowLine widths row' 0) : row = row' := by
  have hblocks := rowLine_append_blanks h hne
  rw [heq, rowLine_append_blanks h' hne'] at hblocks
  exact blocks_inj h h' hends hends' (List.cons.inj hblocks).2.symm

/-- A cell whose characters are no blanks, and that has some. -/
structure IsWord (cell : Cell) : Prop where
  ne_nil : cell ≠ []
  blank_not_mem : ' ' ∉ cell

lemma head?_blocks (h : List.Forall₂ FitsIn widths row) (hwords : ∀ cell ∈ row, IsWord cell) :
    (blocks widths row).head? ≠ some ' ' := by
  cases h with
  | nil => exact nofun
  | @cons width cell widths row hcell hrow =>
    obtain ⟨hne, hblank⟩ := hwords _ List.mem_cons_self
    obtain ⟨first, rest, rfl⟩ := List.exists_cons_of_ne_nil hne
    rw [blocks_cons, block, List.cons_append, List.cons_append, List.head?_cons, ne_eq,
      Option.some.injEq]
    rintro rfl
    exact hblank List.mem_cons_self

/-- Where every cell is a word, the widths can be read back. -/
lemma blocks_words_inj (h : List.Forall₂ FitsIn widths row)
    (h' : List.Forall₂ FitsIn widths' row) (hwords : ∀ cell ∈ row, IsWord cell)
    (heq : blocks widths row = blocks widths' row) : widths = widths' := by
  induction h generalizing widths' with
  | nil =>
    cases h'
    rfl
  | @cons width cell widths row hcell hrow ih =>
    cases h' with
    | @cons width' _ widths' _ hcell' hrow' =>
      obtain ⟨-, hwords⟩ := List.forall_mem_cons.mp hwords
      rw [blocks_cons, blocks_cons, block, block, List.append_assoc, List.append_assoc] at heq
      obtain ⟨hcount, hrest⟩ := blanks_append_inj (head?_blocks hrow hwords)
        (head?_blocks hrow' hwords) (List.append_cancel_left heq)
      have hle := hcell.length_le
      have hle' := hcell'.length_le
      have hwidth : width = width' := by omega
      rw [hwidth, ih hrow' hwords hrest]

lemma widths_eq_of_rowLine_eq (h : List.Forall₂ FitsIn widths row)
    (h' : List.Forall₂ FitsIn widths' row) (hne : row ≠ []) (hwords : ∀ cell ∈ row, IsWord cell)
    (heq : rowLine widths row 0 = rowLine widths' row 0) : widths = widths' := by
  have hblocks := rowLine_append_blanks h hne
  rw [heq, rowLine_append_blanks h' hne] at hblocks
  exact blocks_words_inj h h' hwords (List.cons.inj hblocks).2.symm

end ReadBack

/-! ### Widths of a table -/

section Widths

variable {widths : List Nat} {heading : Row} {rows : List Row}

lemma forall₂_le_zipWith_max {sizes : List Nat} (h : sizes.length = widths.length) :
    List.Forall₂ (· ≤ ·) widths (List.zipWith max widths sizes) ∧
      List.Forall₂ (· ≤ ·) sizes (List.zipWith max widths sizes) := by
  induction widths generalizing sizes with
  | nil =>
    cases List.length_eq_zero_iff.mp h
    exact ⟨.nil, .nil⟩
  | cons width widths ih =>
    cases sizes with
    | nil => cases h
    | cons size sizes =>
      obtain ⟨hwidths, hsizes⟩ := ih (Nat.succ.inj h)
      exact ⟨.cons (Nat.le_max_left _ _) hwidths, .cons (Nat.le_max_right _ _) hsizes⟩

lemma forall₂_le_trans {sizes limits : List Nat} (h : List.Forall₂ (· ≤ ·) sizes widths)
    (h' : List.Forall₂ (· ≤ ·) widths limits) : List.Forall₂ (· ≤ ·) sizes limits := by
  induction h generalizing limits with
  | nil => exact h'
  | cons hsize _ ih =>
    cases h' with
    | cons hlimit hlimits => exact .cons (Nat.le_trans hsize hlimit) (ih hlimits)

/-- Widths only grow with each row, and the row then has room in them. -/
lemma forall₂_le_foldl (h : ∀ row ∈ rows, row.length = widths.length) :
    let limits := rows.foldl (fun widths row => List.zipWith max widths (row.map cellWidth)) widths
    List.Forall₂ (· ≤ ·) widths limits ∧
      ∀ row ∈ rows, List.Forall₂ (· ≤ ·) (row.map cellWidth) limits := by
  induction rows generalizing widths with
  | nil => exact ⟨List.forall₂_same.mpr fun _ _ => Nat.le_refl _, nofun⟩
  | cons row rows ih =>
    obtain ⟨hrow, hrows⟩ := List.forall_mem_cons.mp h
    obtain ⟨hold, hnew⟩ :=
      @forall₂_le_zipWith_max widths (row.map cellWidth) (by rw [List.length_map, hrow])
    have hlength := hold.length_eq
    obtain ⟨hgrown, hall⟩ := ih fun row hmem => (hrows row hmem).trans hlength
    exact ⟨forall₂_le_trans hold hgrown,
      List.forall_mem_cons.mpr ⟨forall₂_le_trans hnew hgrown, hall⟩⟩

/-- The columns of a table have room for all cells. -/
lemma forall₂_cellWidth_le (h : ∀ row ∈ rows, row.length = heading.length) :
    ∀ row ∈ heading :: rows,
      List.Forall₂ (· ≤ ·) (row.map cellWidth) (Columns.widths heading rows) := by
  rw [List.forall_mem_cons]
  apply forall₂_le_foldl
  intro row hrow
  rw [h row hrow, List.length_map]

/-- Cells of one line that take a column for each character fit. -/
lemma forall₂_fitsIn {row : Row} (h : List.Forall₂ (· ≤ ·) (row.map cellWidth) widths)
    (hrow : ∀ cell ∈ row, '\n' ∉ cell ∧ Width.ofChars cell = cell.length) :
    List.Forall₂ FitsIn widths row := by
  rw [List.forall₂_map_left_iff] at h
  induction h with
  | nil => exact .nil
  | cons hcell _ ih =>
    obtain ⟨⟨hbreak, hwidth⟩, hrow⟩ := List.forall_mem_cons.mp hrow
    rw [cellWidth_of_not_mem hbreak, hwidth] at hcell
    exact .cons ⟨hbreak, hwidth, hcell⟩ (ih hrow)

end Widths

end ElfInspect.Columns
