import ElfInspect.Label

/-!
# Labels of sections

The word for a section's type and the letters for its flags.
-/

namespace ElfInspect.SectionHeader

def sectionTypes : LabelTable := [
  (0, "NULL"),
  (1, "PROGBITS"),
  (2, "SYMTAB"),
  (3, "STRTAB"),
  (4, "RELA"),
  (5, "HASH"),
  (6, "DYNAMIC"),
  (7, "NOTE"),
  (8, "NOBITS"),
  (9, "REL"),
  (10, "SHLIB"),
  (11, "DYNSYM"),
  (14, "INIT_ARRAY"),
  (15, "FINI_ARRAY"),
  (16, "PREINIT_ARRAY"),
  (17, "GROUP"),
  (18, "SYMTAB_SHNDX"),
  (0x6ffffff6, "GNU_HASH"),
  (0x6ffffffd, "GNU_verdef"),
  (0x6ffffffe, "GNU_verneed"),
  (0x6fffffff, "GNU_versym")]

/-- The known flags with their letters, in the order in which the letters are written. -/
def flagTable : List (UInt64 × Char) := [
  (0x1, 'W'),
  (0x2, 'A'),
  (0x4, 'X'),
  (0x10, 'M'),
  (0x20, 'S'),
  (0x40, 'I'),
  (0x80, 'L'),
  (0x100, 'O'),
  (0x200, 'G'),
  (0x400, 'T'),
  (0x80000000, 'E')]

def typeLabel (code : UInt32) : String :=
  sectionTypes.label code.toNat

/-- The letters of the flags that are set. -/
def flagLetters (flags : UInt64) : String :=
  String.ofList ((flagTable.filter fun entry => flags &&& entry.1 ≠ 0).map Prod.snd)

end ElfInspect.SectionHeader
