import ElfInspect.Text.Numeral

/-!
# Faults

Everything that can stop an inspection: the reader failed, or the bytes are not a 64-bit
object file. Each fault carries what its message says.
-/

namespace ElfInspect

/-- A failure below the file format. What the system says is kept as it is said. -/
inductive IoError where
  | unexpectedEnd
  | notFound
  | notDirectory
  | nameTooLong
  | nulInName
  | other (text : String)
  deriving DecidableEq, Repr

/-- The piece of a file that was wanted when a fault arose. -/
inductive Part where
  | fileHeader
  | programHeaderTable
  | sectionHeaderTable
  | sectionAt (index : Nat)
  | nameTable
  | other (label : String)
  deriving DecidableEq, Repr

/-- A defect of the bytes. -/
inductive FormatError where
  | badMagic (found : Vector UInt8 4)
  | truncated (part : Part) (offset expected actual : UInt64)
  | badReference (part : Part) (index len : Nat)
  | unsupportedClass (code : UInt8)
  | unsupportedEncoding (code : UInt8)
  | badEntrySize (expected actual : UInt16)
  deriving DecidableEq, Repr

inductive Fault where
  | io (error : IoError)
  | format (error : FormatError)
  deriving DecidableEq, Repr

open Numeral

def IoError.message : IoError → String
  | unexpectedEnd => "failed to fill whole buffer"
  | notFound => "No such file or directory (os error 2)"
  | notDirectory => "Not a directory (os error 20)"
  | nameTooLong => "File name too long (os error 36)"
  | nulInName => "file name contained an unexpected NUL byte"
  | other text => text

def Part.describe : Part → String
  | fileHeader => "file header"
  | programHeaderTable => "program header table"
  | sectionHeaderTable => "section header table"
  | sectionAt index => "section " ++ decimal index
  | nameTable => "section name string table"
  | other label => label

def FormatError.message : FormatError → String
  | badMagic found => "not an ELF file: bad magic " ++ hexBytes found.toList
  | truncated part offset expected actual =>
    part.describe ++ " truncated at offset " ++ markedHex offset.toNat ++ ": expected " ++
      decimal expected.toNat ++ " bytes, got " ++ decimal actual.toNat
  | badReference part index len =>
    part.describe ++ " index " ++ decimal index ++ " out of range (" ++ decimal len ++ " entries)"
  | unsupportedClass code =>
    "unsupported ELF class " ++ decimal code.toNat ++ " (only 64-bit objects are handled)"
  | unsupportedEncoding code => "unsupported data encoding " ++ decimal code.toNat
  | badEntrySize expected actual =>
    "section header entry size is " ++ decimal actual.toNat ++ " bytes, expected " ++
      decimal expected.toNat

def Fault.message : Fault → String
  | io error => error.message
  | format error => error.message

end ElfInspect
