import ElfInspect.Label

/-!
# Labels of the file header

The words for the enumerated fields of a file header.
-/

namespace ElfInspect.FileHeader

def classes : LabelTable := [
  (0, "ELFCLASSNONE"),
  (1, "32-bit objects"),
  (2, "64-bit objects")]

def encodings : LabelTable := [
  (0, "ELFDATANONE"),
  (1, "2's complement, little-endian"),
  (2, "2's complement, big-endian")]

/-- The words for both version fields, the one in the identification and the one after it. -/
def versions : LabelTable := [
  (0, "EV_NONE"),
  (1, "Current version")]

def osAbis : LabelTable := [
  (0, "ELFOSABI_NONE"),
  (1, "HP-UX"),
  (2, "NetBSD"),
  (3, "Linux"),
  (6, "Sun Solaris"),
  (7, "AIX"),
  (8, "IRIX"),
  (9, "FreeBSD"),
  (10, "TRU64 UNIX"),
  (11, "Novell Modesto"),
  (12, "OpenBSD"),
  (97, "ARM"),
  (255, "Standalone (embedded) application")]

def fileTypes : LabelTable := [
  (0, "ET_NONE"),
  (1, "Relocatable file"),
  (2, "Executable file"),
  (3, "Shared object file"),
  (4, "Core file")]

def machines : LabelTable := [
  (0, "EM_NONE"),
  (1, "AT&T WE 32100"),
  (2, "SPARC"),
  (3, "Intel 80386"),
  (4, "Motorola 68000"),
  (5, "Motorola 88000"),
  (7, "Intel 80860"),
  (8, "MIPS R3000"),
  (15, "HP/PA"),
  (18, "SPARC with enhanced instruction set"),
  (20, "PowerPC"),
  (21, "PowerPC 64-bit"),
  (22, "IBM S/390"),
  (40, "ARM"),
  (42, "Renesas SuperH"),
  (43, "SPARC v9 64-bit"),
  (50, "Intel Itanium"),
  (62, "AMD x86-64"),
  (75, "DEC Vax"),
  (183, "ARM AArch64"),
  (243, "RISC-V")]

end ElfInspect.FileHeader
