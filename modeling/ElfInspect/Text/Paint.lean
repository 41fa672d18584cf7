/-!
# Paint

Text is set off by escape sequences of the terminal, or not at all. A painted text is the
plain one between a sequence that turns a style on and one that turns all styles off.
-/

namespace ElfInspect

inductive Style where
  | bold
  | cyan
  | green
  deriving DecidableEq, Repr

/-- The number that turns a style on. -/
def Style.code : Style → String
  | bold => "1"
  | cyan => "36"
  | green => "32"

inductive Paint where
  | plain
  | ansi
  deriving DecidableEq, Repr

namespace Paint

/-- The escape sequence with a number. -/
def escape (code : String) : String :=
  "\x1b[" ++ code ++ "m"

def apply (paint : Paint) (style : Style) (text : String) : String :=
  match paint with
  | plain => text
  | ansi => escape style.code ++ text ++ escape "0"

end Paint

end ElfInspect
