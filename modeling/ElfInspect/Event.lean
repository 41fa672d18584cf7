import ElfInspect.Text.Numeral

/-!
# Events

What an inspection tells its log while it runs, each event with its level and its message.
-/

namespace ElfInspect

inductive Level where
  | debug
  | info
  | warn
  deriving DecidableEq, Repr

/-- The word that stands before a message in the log. -/
def Level.label : Level → String
  | debug => "DEBUG"
  | info => "INFO"
  | warn => "WARN"

inductive Event where
  | analyzing (length : UInt64)
  | headerRead (type machine : UInt16) (shoff : UInt64) (shnum shstrndx : UInt16)
  | noSections
  | nobitsPastEnd (index : Nat) (offset : UInt64)
  | sectionsRead (count : Nat)
  | nameTableLoaded (index size : Nat)
  | nameOutside (index : Nat) (offset : UInt32) (size : Nat)
  | inspected (count : Nat) (path : String)
  deriving DecidableEq, Repr

namespace Event

open Numeral

def level : Event → Level
  | headerRead .. | nameTableLoaded .. => .debug
  | nobitsPastEnd .. | nameOutside .. => .warn
  | _ => .info

def message : Event → String
  | analyzing length => "Analyzing " ++ decimal length.toNat ++ " bytes"
  | headerRead type machine shoff shnum shstrndx =>
    "ELF header: type=" ++ decimal type.toNat ++ " machine=" ++ decimal machine.toNat ++
      " shoff=" ++ markedHex shoff.toNat ++ " shnum=" ++ decimal shnum.toNat ++
      " shstrndx=" ++ decimal shstrndx.toNat
  | noSections => "No section headers declared"
  | nobitsPastEnd index offset =>
    "NOBITS section " ++ decimal index ++ " offset " ++ markedHex offset.toNat ++ " lies past EOF"
  | sectionsRead count => "Read " ++ decimal count ++ " section headers"
  | nameTableLoaded index size =>
    "Loaded section name string table from section " ++ decimal index ++ " (" ++ decimal size ++
      " bytes)"
  | nameOutside index offset size =>
    "Section " ++ decimal index ++ ": name offset " ++ decimal offset.toNat ++
      " outside string table (" ++ decimal size ++ " bytes)"
  | inspected count path => decimal count ++ " sections in " ++ path

/-- The line of the log: the level's word, a space and the message. -/
def line (event : Event) : String :=
  event.level.label ++ " " ++ event.message

end Event

end ElfInspect
