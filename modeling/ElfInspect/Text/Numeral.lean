/-!
# Numerals

The written forms of a natural number: decimal, and lower-case hexadecimal bare, marked by
`0x`, or filled up with zeros to a width.
-/

namespace ElfInspect.Numeral

/-- Fills a text up on the left to at least `width` characters. -/
def fillLeft (filler : Char) (width : Nat) (text : String) : String :=
  String.ofList (text.toList.leftpad width filler)

/-- Fills a text up on the right to at least `width` characters. -/
def fillRight (filler : Char) (width : Nat) (text : String) : String :=
  String.ofList (text.toList.rightpad width filler)

def decimal (n : Nat) : String :=
  String.ofList (Nat.toDigits 10 n)

def hex (n : Nat) : String :=
  String.ofList (Nat.toDigits 16 n)

/-- A hexadecimal numeral with its mark. -/
def markedHex (n : Nat) : String :=
  "0x" ++ hex n

/-- A hexadecimal numeral of at least `width` digits. -/
def paddedHex (width n : Nat) : String :=
  fillLeft '0' width (hex n)

/-- Two digits for each byte, with spaces between the bytes. -/
def hexBytes (bytes : List UInt8) : String :=
  " ".intercalate (bytes.map fun byte => paddedHex 2 byte.toNat)

@[simp] theorem toList_decimal (n : Nat) : (decimal n).toList = Nat.toDigits 10 n := by
  simp [decimal]

@[simp] theorem toList_hex (n : Nat) : (hex n).toList = Nat.toDigits 16 n := by
  simp [hex]

theorem length_fillLeft (filler : Char) (width : Nat) (text : String) :
    (fillLeft filler width text).length = max width text.length := by
  simp [fillLeft, String.length]
  omega

end ElfInspect.Numeral
