import ElfInspect.Byte.Order
import ElfInspect.Fault

/-!
# Readers

A reader gives the bytes of one file from a cursor on. It need not be a good one: the length
it reports may be wrong, it may give only a few bytes at a time, and it may fail from some
position on or at some move of the cursor. What it says when it fails is its own. A reader
without such limits is `honest`.
-/

namespace ElfInspect

/-- What a reader says of a move that fails if it brings no words of its own. -/
@[match_pattern]
def IoError.seekFault : IoError := .other "mock seek failure"

/-- What a reader says of a read that fails if it brings no words of its own. -/
@[match_pattern]
def IoError.readFault : IoError := .other "mock read failure"

structure Reader where
  content : Bytes
  /-- Where a move to the end of the file lands. -/
  reportedLength : UInt64
  /-- The most bytes that one read gives. -/
  chunk? : Option Nat := none
  /-- The position from which on every read fails. -/
  readFault? : Option Nat := none
  /-- The number of the move, counted from 1, that fails. -/
  seekFault? : Option Nat := none
  readError : IoError := .readFault
  seekError : IoError := .seekFault
  position : Nat := 0
  /-- The bytes at and after the cursor. -/
  ahead : Bytes := content
  /-- How many moves were tried so far. -/
  seeks : Nat := 0
  ahead_eq : ahead = content.drop position := by simp

namespace Reader

/-- The reader that reports the length it has and never fails. -/
def honest (content : Bytes) : Reader where
  content
  reportedLength := content.length.toUInt64

/-- The same reader with nothing that makes it fail. -/
def faultless (reader : Reader) : Reader :=
  { reader with readFault? := none, seekFault? := none }

/-- Moves the cursor. A move that fails is counted too and leaves the cursor alone. -/
def seek (reader : Reader) (position : Nat) : Except IoError Unit × Reader :=
  let counted := { reader with seeks := reader.seeks + 1 }
  if reader.seekFault? = some counted.seeks then
    (.error reader.seekError, counted)
  else
    (.ok (), { counted with position, ahead := reader.content.drop position, ahead_eq := rfl })

/-- Whether a read from the cursor fails. -/
def failsHere (reader : Reader) : Bool :=
  match reader.readFault? with
  | some fault => fault ≤ reader.position
  | none => false

/-- The most bytes that the next read may give when `wanted` are asked for. -/
def allowance (reader : Reader) (wanted : Nat) : Nat :=
  let limit := match reader.chunk? with
    | some chunk => min wanted chunk
    | none => wanted
  match reader.readFault? with
  | some fault => min limit (fault - reader.position)
  | none => limit

/-- Moves the cursor past the next `count` bytes, as far as there are so many. -/
def advance (reader : Reader) (count : Nat) : Reader :=
  { reader with
    position := reader.position + count
    ahead := reader.ahead.drop count
    ahead_eq := by rw [reader.ahead_eq, List.drop_drop] }

/-- One read: at most `wanted` bytes, and none at the end of the file. A request for no bytes
reaches neither the file nor a fault. -/
def read (reader : Reader) (wanted : Nat) : Except IoError Bytes × Reader :=
  if wanted = 0 then
    (.ok [], reader)
  else if reader.failsHere then
    (.error reader.readError, reader)
  else
    let block := reader.ahead.take (reader.allowance wanted)
    (.ok block, reader.advance block.length)

theorem allowance_le (reader : Reader) (wanted : Nat) : reader.allowance wanted ≤ wanted := by
  unfold allowance
  cases reader.chunk? <;> cases reader.readFault? <;> simp only <;> omega

theorem read_zero (reader : Reader) : reader.read 0 = (.ok [], reader) := by
  simp [read]

/-- A read never gives more than was asked for. -/
theorem length_le_of_read {reader rest : Reader} {wanted : Nat} {block : Bytes}
    (h : reader.read wanted = (.ok block, rest)) : block.length ≤ wanted := by
  unfold read at h
  split at h
  · cases h
    simp
  · split at h
    · cases h
    · cases h
      have := reader.allowance_le wanted
      simp only [List.length_take]
      omega

/-- Reads again and again until `wanted` bytes are there or a read gives none; `found` holds
the earlier bytes, latest first. -/
def gatherFrom (wanted : Nat) (found : Bytes) (reader : Reader) : Except IoError Bytes × Reader :=
  match h : reader.read wanted with
  | (.error error, rest) => (.error error, rest)
  | (.ok [], rest) => (.ok found.reverse, rest)
  | (.ok (byte :: block), rest) =>
    gatherFrom (wanted - (block.length + 1)) (block.reverseAux (byte :: found)) rest
termination_by wanted
decreasing_by
  have := length_le_of_read h
  simp only [List.length_cons] at this
  omega

/-- All of the next `wanted` bytes, or as many as the reader gives. -/
def gather (reader : Reader) (wanted : Nat) : Except IoError Bytes × Reader :=
  gatherFrom wanted [] reader

end Reader

end ElfInspect
