import ElfInspect.Byte.Order

/-!
# Decoding names

Bytes are decoded as UTF-8 from left to right, and whatever is not well formed becomes
U+FFFD: one for each byte that can begin no sequence, and one for each sequence that is
begun and then broken off. The byte that breaks a sequence off is looked at afresh, so no
byte is lost to a broken sequence that is not a part of it.
-/

namespace ElfInspect.Utf8

/-- The character that stands for what cannot be decoded. -/
def replacement : Char := '\uFFFD'

/-- A sequence of several bytes that is begun and not complete: the bits gathered so far,
how many bytes are still missing, and the range of the next one. -/
structure Sequence where
  bits : Nat
  missing : Nat
  low : UInt8
  high : UInt8
  deriving DecidableEq, Repr

namespace Sequence

/-- What a lead byte begins. The bounds on the second byte keep out overlong forms,
surrogates, and numbers above U+10FFFF. -/
def ofLead? (byte : UInt8) : Option Sequence :=
  if 0xc2 ≤ byte ∧ byte ≤ 0xdf then some ⟨(byte - 0xc0).toNat, 1, 0x80, 0xbf⟩
  else if byte = 0xe0 then some ⟨0, 2, 0xa0, 0xbf⟩
  else if byte = 0xed then some ⟨0xd, 2, 0x80, 0x9f⟩
  else if 0xe1 ≤ byte ∧ byte ≤ 0xef then some ⟨(byte - 0xe0).toNat, 2, 0x80, 0xbf⟩
  else if byte = 0xf0 then some ⟨0, 3, 0x90, 0xbf⟩
  else if 0xf1 ≤ byte ∧ byte ≤ 0xf3 then some ⟨(byte - 0xf0).toNat, 3, 0x80, 0xbf⟩
  else if byte = 0xf4 then some ⟨4, 3, 0x80, 0x8f⟩
  else none

def admits (sequence : Sequence) (byte : UInt8) : Bool :=
  sequence.low ≤ byte && byte ≤ sequence.high

/-- The sequence with one more byte. After the second byte every continuation byte will do. -/
def extend (sequence : Sequence) (byte : UInt8) : Sequence where
  bits := sequence.bits * 64 + (byte - 0x80).toNat
  missing := sequence.missing - 1
  low := 0x80
  high := 0xbf

end Sequence

/-- The state of decoding: the characters found, latest first, and the sequence that is
begun. -/
structure Scan where
  found : List Char := []
  pending? : Option Sequence := none
  deriving DecidableEq, Repr

namespace Scan

/-- Takes a byte that belongs to no earlier one. -/
def begin (found : List Char) (byte : UInt8) : Scan :=
  if byte < 0x80 then { found := Char.ofNat byte.toNat :: found }
  else match Sequence.ofLead? byte with
    | some sequence => { found, pending? := some sequence }
    | none => { found := replacement :: found }

def step (scan : Scan) (byte : UInt8) : Scan :=
  match scan.pending? with
  | none => begin scan.found byte
  | some sequence =>
    if sequence.admits byte then
      let longer := sequence.extend byte
      if longer.missing = 0 then { found := Char.ofNat longer.bits :: scan.found }
      else { scan with pending? := some longer }
    else begin (replacement :: scan.found) byte

/-- The characters in reading order; a sequence that the end cuts short counts as broken. -/
def finish (scan : Scan) : List Char :=
  match scan.pending? with
  | none => scan.found.reverse
  | some _ => (replacement :: scan.found).reverse

end Scan

/-- The characters of a byte string, with replacements. -/
def decodeChars (bytes : Bytes) : List Char :=
  (bytes.foldl Scan.step {}).finish

def decode (bytes : Bytes) : String :=
  String.ofList (decodeChars bytes)

theorem decodeChars_nil : decodeChars [] = [] := rfl

theorem decode_nil : decode [] = "" := rfl

/-- Characters already found stay where they are. -/
theorem Scan.step_found (found : List Char) (pending? : Option Sequence) (byte : UInt8) :
    Scan.step ⟨found, pending?⟩ byte =
      { Scan.step ⟨[], pending?⟩ byte with
        found := (Scan.step ⟨[], pending?⟩ byte).found ++ found } := by
  unfold Scan.step
  cases pending? with
  | none =>
    simp only [Scan.begin]
    split
    · rfl
    · split <;> rfl
  | some sequence =>
    simp only
    split
    · split <;> rfl
    · simp only [Scan.begin]
      split
      · rfl
      · split <;> rfl

theorem Scan.foldl_found (found : List Char) (pending? : Option Sequence) (bytes : Bytes) :
    bytes.foldl Scan.step ⟨found, pending?⟩ =
      { bytes.foldl Scan.step ⟨[], pending?⟩ with
        found := (bytes.foldl Scan.step ⟨[], pending?⟩).found ++ found } := by
  induction bytes generalizing found pending? with
  | nil => rfl
  | cons byte bytes ih =>
    simp only [List.foldl_cons]
    rw [Scan.step_found found]
    generalize Scan.step ⟨[], pending?⟩ byte = next
    rw [ih (next.found ++ found), ih next.found]
    simp

/-- Where no sequence is begun, what follows is decoded by itself. -/
theorem finish_foldl_found (found : List Char) (bytes : Bytes) :
    (bytes.foldl Scan.step ⟨found, none⟩).finish = found.reverse ++ decodeChars bytes := by
  rw [Scan.foldl_found]
  simp only [decodeChars]
  generalize bytes.foldl Scan.step {} = scan
  cases hpending : scan.pending? <;> simp [Scan.finish, hpending]

/-- A byte below 0x80 is a character of its own. -/
theorem decodeChars_cons_of_lt {byte : UInt8} (h : byte < 0x80) (bytes : Bytes) :
    decodeChars (byte :: bytes) = Char.ofNat byte.toNat :: decodeChars bytes := by
  have hstep : Scan.step {} byte = ⟨[Char.ofNat byte.toNat], none⟩ := by
    simp [Scan.step, Scan.begin, h]
  rw [decodeChars, List.foldl_cons, hstep, finish_foldl_found]
  rfl

end ElfInspect.Utf8
