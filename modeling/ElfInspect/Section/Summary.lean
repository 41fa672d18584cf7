import ElfInspect.NameTable

/-!
# Section summaries

What a report says about one section: its number in the table, its resolved name, the words
for its type and flags, and its numbers.
-/

namespace ElfInspect

structure SectionSummary where
  index : Nat
  name : String
  kind : String
  vma : UInt64
  size : UInt64
  fileOffset : UInt64
  flags : String
  link : UInt32
  info : UInt32
  align : UInt64
  entsize : UInt64
  deriving DecidableEq, Repr

namespace SectionSummary

def ofHeader (names : NameTable) (index : Nat) (sh : SectionHeader) : SectionSummary where
  index
  name := names.resolve sh.name
  kind := SectionHeader.typeLabel sh.type
  vma := sh.addr
  size := sh.size
  fileOffset := sh.offset
  flags := SectionHeader.flagLetters sh.flags
  link := sh.link
  info := sh.info
  align := sh.addralign
  entsize := sh.entsize

/-- The warning for a section without a name, if that is because the name lies outside the table. -/
def warning? (names : NameTable) (index : Nat) (sh : SectionHeader) : Option Event :=
  if (names.resolve sh.name).isEmpty && names.isOutside sh.name then
    some (.nameOutside index sh.name names.size)
  else
    none

def ofHeaders (names : NameTable) (sections : List SectionHeader) : List SectionSummary :=
  sections.zipIdx.map fun (sh, index) => ofHeader names index sh

def warnings (names : NameTable) (sections : List SectionHeader) : List Event :=
  sections.zipIdx.filterMap fun (sh, index) => warning? names index sh

/-- Outside the table there are no names, so the warning depends on the place alone. -/
theorem warning?_eq (names : NameTable) (index : Nat) (sh : SectionHeader) :
    warning? names index sh =
      if names.isOutside sh.name then some (.nameOutside index sh.name names.size) else none := by
  unfold warning?
  cases houtside : names.isOutside sh.name with
  | false => rw [Bool.and_false]
  | true =>
    rw [NameTable.resolve_of_isOutside houtside]
    rfl

theorem getElem?_ofHeaders (names : NameTable) (sections : List SectionHeader) (index : Nat) :
    (ofHeaders names sections)[index]? = sections[index]?.map (ofHeader names index) := by
  simp [ofHeaders, List.getElem?_zipIdx, Function.comp_def]

end SectionSummary

end ElfInspect
