import ElfInspect.Source.Reader

/-!
# File systems

What the program asks of the system on which it runs is to open the file at a path. Which paths
lead to a file, what is said of the others, and how an opened file behaves when it is read, is up
to the system.

The smallest one is a flat directory, in which the program is run, with nothing beside it. There a
path that goes on after the name of a file leads nowhere, and neither does one that leaves the
directory. Paths and names have a greatest size, counted in bytes. What comes of opening a
directory instead of a file differs between systems; here it is not found.
-/

namespace ElfInspect.CommandLine

structure FileSystem where
  /-- A reader of the file at a path, or what the system says if it opens none. -/
  openFile : String → Except IoError Reader

/-- Files by name. -/
abbrev Directory := List (String × Bytes)

namespace Directory

/-- The most bytes of a path. -/
def pathLimit : Nat := 4095

/-- The most bytes of a component of a path. -/
def nameLimit : Nat := 255

/-- Follows the components of a path. Empty ones and single dots stay in the directory, and
outside of it nothing is found. A name is looked at only once all before it led to a directory. -/
def walk (directory : Directory) : List (List Char) → Except IoError Bytes
  | [] => .error .notFound
  | [] :: rest | ['.'] :: rest => walk directory rest
  | ['.', '.'] :: rest => walk [] rest
  | chars :: rest =>
    let name := String.ofList chars
    if nameLimit < name.utf8ByteSize then .error .nameTooLong
    else match directory.lookup name, rest with
      | none, _ => .error .notFound
      | some content, [] => .ok content
      | some _, _ :: _ => .error .notDirectory

/-- The contents of the file at a path. -/
def openFile (directory : Directory) (path : String) : Except IoError Bytes :=
  if '\x00' ∈ path.toList then .error .nulInName
  else if pathLimit < path.utf8ByteSize then .error .nameTooLong
  else match path.toList with
    | '/' :: chars => walk [] (chars.splitOn '/')
    | chars => walk directory (chars.splitOn '/')

/-- The directory as a file system. Its files are read without trouble. -/
def fileSystem (directory : Directory) : FileSystem where
  openFile path := (directory.openFile path).map Reader.honest

instance : Coe Directory FileSystem where
  coe := fileSystem

end Directory

end ElfInspect.CommandLine
