import ElfInspect.CommandLine.Arguments
import ElfInspect.CommandLine.FileSystem
import ElfInspect.Report.Document
import ElfInspect.Report.Text

/-!
# Runs of the program

What a command line comes to: an exit status, what is written to either stream, and the log.
A run that fails writes nothing but one message, and whether it fails does not hang on the
form in which its result would have been written.
-/

namespace ElfInspect.CommandLine

def versionLine : String := "elfsift 0.1.0"

/-- The outcome of a run whose command line made sense. -/
structure Completion where
  status : Nat
  output : String
  errors : String
  log : List Event
  deriving DecidableEq, Repr

/-- Switches from outside the command line that say whether reports are coloured. -/
structure Environment where
  clicolorForce? : Option String := none
  noColor? : Option String := none
  clicolor? : Option String := none
  /-- Whether the output goes to a terminal. -/
  terminal : Bool := false
  deriving DecidableEq, Repr

/-- Forced colours win, then the wish for none; without either there are colours on a
terminal that does not refuse them. A switch set to "0" says no. -/
def Environment.paint (environment : Environment) : Paint :=
  let forced := environment.clicolorForce?.any (· ≠ "0")
  let unwanted := environment.noColor?.isSome
  let capable := environment.terminal && environment.clicolor?.all (· ≠ "0")
  if forced || (!unwanted && capable) then .ansi else .plain

namespace Invocation

/-- The paint of this run, given the one that the environment calls for. -/
def paint (invocation : Invocation) (default : Paint) : Paint :=
  if invocation.noColor then .plain else default

def textReport (scope : Scope) (paint : Paint) (analysis : Analysis) : String :=
  match scope with
  | .header => Report.header paint analysis.header
  | .sections => Report.sections paint analysis.sections
  | .all => Report.whole paint analysis.path analysis.header analysis.sections

def jsonReport (scope : Scope) (analysis : Analysis) : String :=
  let value := match scope with
    | .header => Report.headerValue analysis.header
    | .sections => Report.sectionsValue analysis.sections
    | .all => Report.analysisValue analysis
  value.render ++ "\n"

def report (invocation : Invocation) (default : Paint) (analysis : Analysis) : String :=
  match invocation.format with
  | .text => textReport invocation.scope (invocation.paint default) analysis
  | .json => jsonReport invocation.scope analysis

/-- The analysis of what the path led to. -/
def analyze (invocation : Invocation) (file : Except IoError Reader) :
    Except Fault Analysis × List Event :=
  match file with
  | .error error => (.error (.io error), [])
  | .ok reader =>
    match Analysis.ofReader reader invocation.path with
    | (.ok analysis, log) =>
      (.ok analysis, log ++ [.inspected analysis.sections.length invocation.path])
    | (.error fault, log) => (.error fault, log)

/-- The run on what the path led to. -/
def complete (invocation : Invocation) (default : Paint) (file : Except IoError Reader) :
    Completion :=
  match invocation.analyze file with
  | (.ok analysis, log) =>
    { status := 0, output := invocation.report default analysis, errors := "", log }
  | (.error fault, log) =>
    let message := "error: cannot analyze " ++ invocation.path ++ ": " ++ fault.message ++ "\n"
    { status := 1, output := "", errors := message, log }

end Invocation

/-- The run of a command line on a system with these files. -/
def run (files : FileSystem) (default : Paint) (words : List String) :
    Except UsageError Completion :=
  match parse words with
  | .error error => .error error
  | .ok .version => .ok { status := 0, output := versionLine ++ "\n", errors := "", log := [] }
  | .ok (.inspect invocation) =>
    .ok (invocation.complete default (files.openFile invocation.path))

end ElfInspect.CommandLine
