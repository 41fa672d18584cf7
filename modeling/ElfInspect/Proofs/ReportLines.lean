import ElfInspect.Proofs.OneLine
import ElfInspect.Report.Header

/-!
# Lines of a report

A text of lines with a break after each has as many breaks as lines, and it is the text of no
other lines.
-/

namespace ElfInspect

@[simp] lemma Paint.oneLine_apply (paint : Paint) (style : Style) {text : String} :
    OneLine (paint.apply style text) ↔ OneLine text := by
  cases paint with
  | plain => rfl
  | ansi =>
    have hon : OneLine (escape style.code) := by cases style <;> decide
    have hoff : OneLine (escape "0") := by decide
    simp [apply, hon, hoff]

namespace Report

lemma unlines_cons (line : String) (lines : List String) :
    unlines (line :: lines) = line ++ "\n" ++ unlines lines := by
  rw [unlines, List.map_cons, String.join_cons]
  rfl

/-- A line put together of several is as good as these lines. -/
lemma unlines_intercalate_cons {lines : List (List Char)} (h : lines ≠ []) (more : List String) :
    unlines (String.ofList (['\n'].intercalate lines) :: more) =
      unlines (lines.map String.ofList ++ more) := by
  induction lines with
  | nil => exact (h rfl).elim
  | cons line lines ih =>
    cases lines with
    | nil => rw [List.intercalate_singleton, List.map_singleton, List.singleton_append]
    | cons next lines =>
      have hnext := ih (List.cons_ne_nil _ _)
      rw [unlines_cons] at hnext
      rw [List.intercalate_cons_of_ne_nil (List.cons_ne_nil _ _), List.map_cons, List.cons_append,
        unlines_cons, unlines_cons, ← hnext, String.ofList_append, String.ofList_append]
      simp only [String.append_assoc]

lemma count_break_unlines {lines : List String} (h : ∀ line ∈ lines, OneLine line) :
    (unlines lines).toList.count '\n' = lines.length := by
  induction lines with
  | nil => rfl
  | cons line lines ih =>
    obtain ⟨hline, hlines⟩ := List.forall_mem_cons.mp h
    have hbreak : "\n".toList.count '\n' = 1 := by decide
    rw [unlines_cons, String.toList_append, String.toList_append, List.count_append,
      List.count_append, ih hlines, List.count_eq_zero.mpr hline, hbreak, List.length_cons]
    omega

lemma toList_unlines_cons (line : String) (lines : List String) :
    (unlines (line :: lines)).toList = line.toList ++ '\n' :: (unlines lines).toList := by
  rw [unlines_cons, String.toList_append, String.toList_append, List.append_assoc]
  rfl

/-- The breaks tell the lines apart. -/
lemma unlines_inj {lines lines' : List String} (h : ∀ line ∈ lines, OneLine line)
    (h' : ∀ line ∈ lines', OneLine line) (heq : unlines lines = unlines lines') :
    lines = lines' := by
  induction lines generalizing lines' with
  | nil =>
    cases lines' with
    | nil => rfl
    | cons line' lines' =>
      have hchars := congrArg String.toList heq
      rw [toList_unlines_cons] at hchars
      exact (List.append_ne_nil_of_right_ne_nil _ (List.cons_ne_nil _ _) hchars.symm).elim
  | cons line lines ih =>
    obtain ⟨hline, hlines⟩ := List.forall_mem_cons.mp h
    cases lines' with
    | nil =>
      have hchars := congrArg String.toList heq
      rw [toList_unlines_cons] at hchars
      exact (List.append_ne_nil_of_right_ne_nil _ (List.cons_ne_nil _ _) hchars).elim
    | cons line' lines' =>
      obtain ⟨hline', hlines'⟩ := List.forall_mem_cons.mp h'
      have hchars := congrArg String.toList heq
      rw [toList_unlines_cons, toList_unlines_cons] at hchars
      obtain ⟨hfirst, hrest⟩ := append_cons_inj hline hline' hchars
      rw [String.toList_inj.mp hfirst, ih hlines hlines' (String.toList_inj.mp hrest)]

end Report

end ElfInspect
