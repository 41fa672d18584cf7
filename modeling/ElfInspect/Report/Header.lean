import ElfInspect.FileHeader.Basic
import ElfInspect.FileHeader.Label
import ElfInspect.Text.Paint

/-!
# The header report

A file header as text: a title, the identification bytes, and one line for each field. All
labels are filled up to one width, so that the values stand below each other.
-/

namespace ElfInspect.Report

open Numeral

/-- The width that labels are filled up to. -/
def labelWidth : Nat := 35

/-- A code and what it means. -/
def labeled (table : LabelTable) (code : Nat) : String :=
  decimal code ++ " (" ++ table.label code ++ ")"

/-- The labels and values of a header, after the identification bytes. -/
def headerFields (header : FileHeader) : List (String × String) := [
  ("Class", labeled FileHeader.classes header.classCode.toNat),
  ("Data", labeled FileHeader.encodings header.encoding.toNat),
  ("Version", labeled FileHeader.versions header.identVersion.toNat),
  ("OS/ABI", labeled FileHeader.osAbis header.osAbi.toNat),
  ("ABI Version", decimal header.abiVersion.toNat),
  ("Type", labeled FileHeader.fileTypes header.type.toNat),
  ("Machine", labeled FileHeader.machines header.machine.toNat),
  ("Version", markedHex header.version.toNat ++ " (" ++
    FileHeader.versions.label header.version.toNat ++ ")"),
  ("Entry point address", markedHex header.entry.toNat),
  ("Start of program headers", decimal header.phoff.toNat ++ " (bytes into file)"),
  ("Start of section headers", decimal header.shoff.toNat ++ " (bytes into file)"),
  ("Flags", markedHex header.flags.toNat),
  ("Size of this header", decimal header.ehsize.toNat ++ " (bytes)"),
  ("Size of program headers", decimal header.phentsize.toNat ++ " (bytes)"),
  ("Number of program headers", decimal header.phnum.toNat),
  ("Size of section headers", decimal header.shentsize.toNat ++ " (bytes)"),
  ("Number of section headers", decimal header.shnum.toNat),
  ("Section header string table index", decimal header.shstrndx.toNat)]

def fieldLine (paint : Paint) (field : String × String) : String :=
  "  " ++ paint.apply .cyan (fillRight ' ' labelWidth (field.1 ++ ":")) ++ field.2

def magicLine (paint : Paint) (header : FileHeader) : String :=
  "  " ++ paint.apply .cyan "Magic:" ++ "   " ++ hexBytes header.ident.toList

def headerLines (paint : Paint) (header : FileHeader) : List String :=
  paint.apply .bold "ELF Header:" :: magicLine paint header ::
    (headerFields header).map (fieldLine paint)

/-- Lines with a break after each. -/
def unlines (lines : List String) : String :=
  String.join (lines.map (· ++ "\n"))

def header (paint : Paint) (header : FileHeader) : String :=
  unlines (headerLines paint header)

theorem length_headerLines (paint : Paint) (header : FileHeader) :
    (headerLines paint header).length = 20 := rfl

end ElfInspect.Report
