/-!
# Command line words

What one argument of the command line is by itself, before its place among the others is
looked at. Requests for help are left out: `-h` and `--help` are options like any unknown one here,
and `help` is a bare word.
-/

namespace ElfInspect.CommandLine

/-- The part of a report that is wanted. -/
inductive Scope where
  | header
  | sections
  | all
  deriving DecidableEq, Repr

def Scope.name : Scope → String
  | header => "header"
  | sections => "sections"
  | all => "all"

def Scope.ofName? (name : String) : Option Scope :=
  [header, sections, all].find? fun scope => scope.name = name

/-- The form of a report. -/
inductive Format where
  | text
  | json
  deriving DecidableEq, Repr

def Format.name : Format → String
  | text => "text"
  | json => "json"

def Format.ofName? (name : String) : Option Format :=
  [text, json].find? fun format => format.name = name

inductive Word where
  /-- Two dashes alone: only bare words follow. -/
  | separator
  | version
  | noColor
  /-- The format option whose value is the next word. -/
  | format
  /-- The format option with its value in the same word. -/
  | formatIs (value : String)
  | unknownOption
  | bare
  deriving DecidableEq, Repr

/-- What follows a given beginning of a text. -/
def afterStart? : List Char → List Char → Option (List Char)
  | [], text => some text
  | _ :: _, [] => none
  | char :: start, first :: text => if char = first then afterStart? start text else none

/-- A dash alone is a bare word. The short version option may have more letters behind it. No word
asks for help. -/
def Word.ofText (text : String) : Word :=
  match text with
  | "--" => separator
  | "--version" => version
  | "--no-color" => noColor
  | "--format" => format
  | "-" => bare
  | _ =>
    match afterStart? "--format=".toList text.toList, text.toList with
    | some value, _ => formatIs (String.ofList value)
    | none, '-' :: 'V' :: _ => version
    | none, '-' :: _ => unknownOption
    | none, _ => bare

theorem Scope.ofName?_name (scope : Scope) : Scope.ofName? scope.name = some scope := by
  cases scope <;> decide

theorem Format.ofName?_name (format : Format) : Format.ofName? format.name = some format := by
  cases format <;> decide

end ElfInspect.CommandLine
