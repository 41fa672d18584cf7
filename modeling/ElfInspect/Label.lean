/-!
# Label tables

A label table gives the words for a small set of codes. Every other code, of whatever size
or sign, has the label "Unknown".
-/

namespace ElfInspect

abbrev LabelTable := List (Int × String)

namespace LabelTable

def unknown : String := "Unknown"

def label (table : LabelTable) (code : Int) : String :=
  (table.lookup code).getD unknown

theorem label_cons (entry : Int × String) (table : LabelTable) (code : Int) :
    label (entry :: table) code = if code = entry.1 then entry.2 else label table code := by
  obtain ⟨known, text⟩ := entry
  by_cases h : code = known
  · simp [label, h]
  · simp [label, List.lookup_cons, h, beq_eq_false_iff_ne.mpr h]

end LabelTable

end ElfInspect
