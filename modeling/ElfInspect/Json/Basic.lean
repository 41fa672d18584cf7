import ElfInspect.Text.Numeral

/-!
# JSON values

The values that a report is made of, and their indented text: every array element and every
object member on lines of its own, two spaces deeper than what holds it.
-/

namespace ElfInspect

inductive Json where
  | number (value : Nat)
  | string (value : String)
  | array (items : List Json)
  | object (members : List (String × Json))

namespace Json

/-- How a character stands in a string. Quotes, backslashes and control characters are
escaped, and all others stand for themselves. -/
def escapeChar (char : Char) : List Char :=
  match char with
  | '"' => ['\\', '"']
  | '\\' => ['\\', '\\']
  | '\x08' => ['\\', 'b']
  | '\x0c' => ['\\', 'f']
  | '\n' => ['\\', 'n']
  | '\r' => ['\\', 'r']
  | '\t' => ['\\', 't']
  | _ =>
    if char.toNat < 0x20 then '\\' :: 'u' :: (Numeral.paddedHex 4 char.toNat).toList
    else [char]

def quote (text : String) : String :=
  String.ofList ('"' :: text.toList.flatMap escapeChar ++ ['"'])

/-- Puts a text in front of the first of some lines. -/
def startWith (text : String) : List String → List String
  | [] => [text]
  | line :: rest => (text ++ line) :: rest

/-- Puts a text behind the last of some lines. -/
def endWith (text : String) : List String → List String
  | [] => [text]
  | [line] => [line ++ text]
  | line :: next :: rest => line :: endWith text (next :: rest)

def indent (lines : List String) : List String :=
  lines.map ("  " ++ ·)

/-- The lines of several values, with commas between them. -/
def separate : List (List String) → List String
  | [] => []
  | [block] => block
  | block :: next :: rest => endWith "," block ++ separate (next :: rest)

/-- Puts values between brackets, which stand on lines of their own unless there is nothing
between them. -/
def enclose (left right : String) : List (List String) → List String
  | [] => [left ++ right]
  | block :: blocks => left :: indent (separate (block :: blocks)) ++ [right]

mutual

/-- The lines of a value. -/
def lines : Json → List String
  | number value => [Numeral.decimal value]
  | string value => [quote value]
  | array items => enclose "[" "]" (itemBlocks items)
  | object members => enclose "\x7b" "\x7d" (memberBlocks members)

/-- The lines of each element of an array. -/
def itemBlocks : List Json → List (List String)
  | [] => []
  | item :: items => lines item :: itemBlocks items

/-- The lines of each member of an object, the key on the first of them. -/
def memberBlocks : List (String × Json) → List (List String)
  | [] => []
  | (key, value) :: members =>
    startWith (quote key ++ ": ") (lines value) :: memberBlocks members

end

/-- The text of a value, without a break at the end. -/
def render (value : Json) : String :=
  "\n".intercalate value.lines

end Json

end ElfInspect
