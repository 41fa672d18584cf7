import ElfInspect.CommandLine.Word

/-!
# Command line arguments

The words of the command line are taken from left to right: a path, then at most one scope,
with options before, between and after them. Each option may be given once before the scope
and once after it, and the later one counts. The version option answers at once when it is
reached; whatever follows it is not looked at. There is no request for help, so a word that would
make one is taken for what it is otherwise.
-/

namespace ElfInspect.CommandLine

/-- What is wrong with a command line. -/
inductive UsageError where
  | missingPath
  | emptyPath
  | unexpectedWord (word : String)
  | unknownOption (word : String)
  | repeatedFormat
  | repeatedNoColor
  | missingFormat
  | badFormat (value : String)
  deriving DecidableEq, Repr

/-- The options on one side of the scope. -/
structure Options where
  format? : Option Format := none
  noColor : Bool := false
  deriving DecidableEq, Repr

namespace Options

def setFormat (options : Options) (value : String) : Except UsageError Options :=
  match options.format?, Format.ofName? value with
  | some _, _ => .error .repeatedFormat
  | none, none => .error (.badFormat value)
  | none, some format => .ok { options with format? := some format }

def setNoColor (options : Options) : Except UsageError Options :=
  if options.noColor then .error .repeatedNoColor else .ok { options with noColor := true }

end Options

/-- An inspection that a command line asks for. -/
structure Invocation where
  path : String
  scope : Scope
  format : Format
  noColor : Bool
  deriving DecidableEq, Repr

inductive Request where
  | version
  | inspect (invocation : Invocation)
  deriving DecidableEq, Repr

/-- The request that a path, a scope and the options on both sides of the scope make. -/
def Request.ofParts (path : String) (scope : Scope) (before after : Options) : Request :=
  .inspect {
    path
    scope
    format := (after.format? <|> before.format?).getD .text
    noColor := before.noColor || after.noColor }

/-- The end of a command line without a scope. -/
def finish (path? : Option String) (options : Options) : Except UsageError Request :=
  match path? with
  | some path => .ok (.ofParts path .all options {})
  | none => .error .missingPath

/-- Takes a bare word as the path. -/
def takePath (word : String) : Except UsageError String :=
  if word.isEmpty then .error .emptyPath else .ok word

/-- The words after a scope: options only. -/
def scanAfter (path : String) (scope : Scope) (before after : Options) :
    List String → Except UsageError Request
  | [] => .ok (.ofParts path scope before after)
  | text :: rest =>
    match Word.ofText text with
    | .separator =>
      match rest with
      | [] => .ok (.ofParts path scope before after)
      | word :: _ => .error (.unexpectedWord word)
    | .noColor => do scanAfter path scope before (← after.setNoColor) rest
    | .formatIs value => do scanAfter path scope before (← after.setFormat value) rest
    | .format =>
      match rest with
      | [] => .error .missingFormat
      | value :: rest => do scanAfter path scope before (← after.setFormat value) rest
    | .version | .unknownOption => .error (.unknownOption text)
    | .bare => .error (.unexpectedWord text)

/-- The words after two dashes: a path if there is none yet, and nothing else. -/
def scanBare (path? : Option String) (options : Options) : List String → Except UsageError Request
  | [] => finish path? options
  | [word] =>
    match path? with
    | none => do finish (← takePath word) options
    | some _ => .error (.unexpectedWord word)
  | word :: _ :: _ => .error (.unexpectedWord word)

/-- The words up to the scope. -/
def scan (path? : Option String) (options : Options) : List String → Except UsageError Request
  | [] => finish path? options
  | text :: rest =>
    match Word.ofText text with
    | .separator => scanBare path? options rest
    | .version => .ok .version
    | .noColor => do scan path? (← options.setNoColor) rest
    | .formatIs value => do scan path? (← options.setFormat value) rest
    | .format =>
      match rest with
      | [] => .error .missingFormat
      | value :: rest => do scan path? (← options.setFormat value) rest
    | .unknownOption => .error (.unknownOption text)
    | .bare =>
      match path?, Scope.ofName? text with
      | none, none => do scan (← takePath text) options rest
      | none, some _ => .error .missingPath
      | some path, some scope => scanAfter path scope options {} rest
      | some _, none => .error (.unexpectedWord text)

/-- The request that a command line makes; the program's own name is not one of its words. -/
def parse (words : List String) : Except UsageError Request :=
  scan none {} words

end ElfInspect.CommandLine
