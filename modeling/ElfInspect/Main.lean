import ElfInspect.CommandLine.Run

/-!
# The program

The command line program: it reads the file that the command line names, and writes what the
run comes to.
-/

namespace ElfInspect.CommandLine

/-- What the program says about a command line that makes no sense. -/
def usageLine : String :=
  "usage: elfsift [--format text|json] [--no-color] [-V] PATH [header|sections|all]"

def ioError : IO.Error → IoError
  | .noFileOrDirectory .. => .notFound
  | .inappropriateType _ _ "not a directory" => .notDirectory
  | .invalidArgument _ _ "name too long" => .nameTooLong
  | error => .other error.toString

def readFile (path : String) : IO (Except IoError Reader) := do
  try
    return .ok (.honest (← IO.FS.readBinFile path).toList)
  catch error =>
    return .error (ioError error)

def environment : IO Environment := do
  return {
    clicolorForce? := ← IO.getEnv "CLICOLOR_FORCE"
    noColor? := ← IO.getEnv "NO_COLOR"
    clicolor? := ← IO.getEnv "CLICOLOR"
    terminal := ← (← IO.getStdout).isTty }

end ElfInspect.CommandLine

open ElfInspect.CommandLine in
def main (words : List String) : IO UInt32 := do
  match parse words with
  | .error _ =>
    IO.eprintln usageLine
    return 2
  | .ok .version =>
    IO.println versionLine
    return 0
  | .ok (.inspect invocation) =>
    let completion := invocation.complete (← environment).paint (← readFile invocation.path)
    IO.print completion.output
    IO.eprint completion.errors
    return completion.status.toUInt32
