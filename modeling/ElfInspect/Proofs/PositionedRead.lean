import ElfInspect.Proofs.FaultInjection
import ElfInspect.Proofs.Layout

/-!
# Positioned reads

A positioned read checks its extent against the recorded length, moves the cursor and gathers.
What comes of it is written down here for sources of any kind: first by what the reader gathers
from the offset on, and then, for a reader that gives something as long as it has something to
give, as a formula in the bytes that there are, the recorded length and the place of the fault.
-/

namespace ElfInspect

namespace Reader

/-- The reader as a move to the position leaves it if it does not fail. -/
def placed (reader : Reader) (position : Nat) : Reader :=
  (reader.withoutSeekFault.seek position).2

/-- What the next `size` bytes come to once the cursor is at `offset`. -/
def gatherAt (reader : Reader) (offset size : Nat) : Except IoError Bytes :=
  ((reader.placed offset).gather size).1

/-- The move is the one that fails. -/
def FailsToSeek (reader : Reader) : Prop :=
  reader.seekFault? = some (reader.seeks + 1)

/-- The error is one that the reader fails with. -/
def Raises (reader : Reader) (error : IoError) : Prop :=
  error = reader.seekError ∨ error = reader.readError

section GatherAt

variable {reader other : Reader} {offset size : Nat}

lemma meets_placed_iff {fault : Nat} :
    (reader.placed offset).Meets fault size ↔
      size ≠ 0 ∧ (fault ≤ offset ∨ ¬reader.Starved ∧ fault ≤ reader.content.length ∧
        fault < offset + size) := Iff.rfl

lemma gatherAt_of_meets {fault : Nat} (hfault : reader.readFault? = some fault)
    (h : (reader.placed offset).Meets fault size) :
    reader.gatherAt offset size = .error reader.readError := by
  have hgather := @gather_of_meets (reader.placed offset) size fault hfault h
  rw [gatherAt, hgather]
  rfl

lemma gatherAt_of_not_meets
    (h : ∀ fault, reader.readFault? = some fault → ¬(reader.placed offset).Meets fault size) :
    reader.gatherAt offset size =
      .ok (if reader.Starved then [] else slice reader.content offset size) := by
  have hgather := @gather_of_not_meets (reader.placed offset) size h
  rw [gatherAt, hgather]
  rfl

lemma gatherAt_cases (reader : Reader) (offset size : Nat) :
    (∃ fault, reader.readFault? = some fault ∧ (reader.placed offset).Meets fault size) ∨
      ∀ fault, reader.readFault? = some fault → ¬(reader.placed offset).Meets fault size :=
  (reader.placed offset).gather_cases size

/-- Nothing but the fault stops a gathering. -/
lemma eq_readError_of_gatherAt {error : IoError} (h : reader.gatherAt offset size = .error error) :
    error = reader.readError := by
  rcases reader.gatherAt_cases offset size with ⟨fault, hfault, hmeets⟩ | hnot
  · rw [gatherAt_of_meets hfault hmeets] at h
    exact (Except.error.inj h).symm
  · rw [gatherAt_of_not_meets hnot] at h
    cases h

/-- Bytes that were gathered stand in the content, from the offset on. -/
lemma eq_slice_of_gatherAt {bytes : Bytes} (h : reader.gatherAt offset size = .ok bytes) :
    bytes.length ≤ size ∧ bytes = slice reader.content offset bytes.length := by
  rcases reader.gatherAt_cases offset size with ⟨fault, hfault, hmeets⟩ | hnot
  · rw [gatherAt_of_meets hfault hmeets] at h
    cases h
  · rw [gatherAt_of_not_meets hnot, Except.ok.injEq] at h
    subst h
    split
    · exact ⟨Nat.zero_le size, rfl⟩
    · constructor
      · rw [slice, List.length_take]
        exact Nat.min_le_left _ _
      · rw [slice, slice, List.length_take, ← List.take_eq_take_min]

/-- What is gathered depends on the place of the cursor, not on how it came there. -/
lemma gather_congr (hcontent : other.content = reader.content)
    (hposition : other.position = reader.position) (hchunk : other.chunk? = reader.chunk?)
    (hfault : other.readFault? = reader.readFault?) (herror : other.readError = reader.readError) :
    (other.gather size).1 = (reader.gather size).1 := by
  have hstarved : other.Starved ↔ reader.Starved := by rw [Starved, Starved, hchunk]
  have hmeets : ∀ fault, other.Meets fault size ↔ reader.Meets fault size := by
    intro fault
    rw [Meets, Meets, hstarved, hcontent, hposition]
  have hdelivery : other.delivery size = reader.delivery size := by
    simp only [delivery, hstarved, other.ahead_eq, reader.ahead_eq, hcontent, hposition]
  rcases reader.gather_cases size with ⟨fault, hsome, hmeet⟩ | hnot
  · rw [gather_of_meets hsome hmeet,
      gather_of_meets (hfault.trans hsome) ((hmeets fault).mpr hmeet), herror]
  · have hnot' : ∀ fault, other.readFault? = some fault → ¬other.Meets fault size := by
      intro fault hsome hmeet
      exact hnot fault (hfault.symm.trans hsome) ((hmeets fault).mp hmeet)
    rw [gather_of_not_meets hnot, gather_of_not_meets hnot', hdelivery]

lemma gatherAt_congr (hcontent : other.content = reader.content)
    (hchunk : other.chunk? = reader.chunk?) (hfault : other.readFault? = reader.readFault?)
    (herror : other.readError = reader.readError) :
    other.gatherAt offset size = reader.gatherAt offset size :=
  gather_congr hcontent rfl hchunk hfault herror

end GatherAt

end Reader

/-- The source as inspections may have left it: its reader was moved. -/
structure Source.Later (source later : Source) : Prop where
  length : later.length = source.length
  content : later.reader.content = source.reader.content
  chunk : later.reader.chunk? = source.reader.chunk?
  readFault : later.reader.readFault? = source.reader.readFault?
  readError : later.reader.readError = source.reader.readError
  seekError : later.reader.seekError = source.reader.seekError

namespace Source.Later

variable {source later last : Source}

lemma refl (source : Source) : source.Later source := ⟨rfl, rfl, rfl, rfl, rfl, rfl⟩

lemma trans (h : source.Later later) (h' : later.Later last) : source.Later last where
  length := h'.length.trans h.length
  content := h'.content.trans h.content
  chunk := h'.chunk.trans h.chunk
  readFault := h'.readFault.trans h.readFault
  readError := h'.readError.trans h.readError
  seekError := h'.seekError.trans h.seekError

/-- What can be gathered at a place does not change. -/
lemma gatherAt_eq (h : source.Later later) (offset size : Nat) :
    later.reader.gatherAt offset size = source.reader.gatherAt offset size :=
  Reader.gatherAt_congr h.content h.chunk h.readFault h.readError

lemma raises_iff (h : source.Later later) {error : IoError} :
    later.reader.Raises error ↔ source.reader.Raises error := by
  rw [Reader.Raises, Reader.Raises, h.seekError, h.readError]

end Source.Later

lemma Extent.check_of_outside {extent : Extent} {part : Part} {length : UInt64}
    (h : length.toNat < extent.offset.toNat + extent.size.toNat) :
    extent.check part length = .error (.format (.truncated part extent.offset extent.size
      (length.toNat - extent.offset.toNat).toUInt64)) := by
  have hfits : extent.fits length = false := by
    rw [Bool.eq_false_iff, ne_eq, fits_iff]
    exact Nat.not_le.mpr h
  have havailable : (extent.available length).toNat.toUInt64 = extent.available length := by simp
  rw [← toNat_available, havailable, check, hfits]
  rfl

namespace Inspection

/-- What a positioned read makes of the bytes that were gathered. -/
def complete (part : Part) (extent : Extent) : Except IoError Bytes → Except Fault Bytes
  | .error error => .error (.io error)
  | .ok bytes =>
    if bytes.length = extent.size.toNat then .ok bytes
    else .error (.format (.truncated part extent.offset extent.size bytes.length.toUInt64))

section ReadAt

variable {source : Source} {part : Part} {extent : Extent}

/-- An extent that the recorded length rules out is not asked for: the source stays as it is. -/
lemma readAt_of_outside
    (h : source.length.toNat < extent.offset.toNat + extent.size.toNat) :
    readAt part extent source =
      ⟨.error (.format (.truncated part extent.offset extent.size
        (source.length.toNat - extent.offset.toNat).toUInt64)), [], source⟩ := by
  have hlength : length source = ⟨.ok source.length, [], source⟩ := rfl
  have hstep : ofExcept (checkExtent part extent source.length) source =
      ⟨.error (.format (.truncated part extent.offset extent.size
        (source.length.toNat - extent.offset.toNat).toUInt64)), [], source⟩ := by
    rw [checkExtent_eq, Extent.check_of_outside h]
    rfl
  rw [readAt, bind_apply_of_ok hlength, bind_apply_of_error hstep]
  rfl

/-- The bytes that are gathered are all that is looked at once the cursor has been moved. -/
lemma gather_bind_apply {result : Except IoError Bytes} {reader : Reader}
    (hgather : source.reader.gather extent.size.toNat = (result, reader)) :
    ((ofReader fun reader => reader.gather extent.size.toNat) >>= fun bytes =>
      if bytes.length = extent.size.toNat then pure bytes
      else fail (.format (.truncated part extent.offset extent.size bytes.length.toUInt64)))
        source = ⟨complete part extent result, [], { source with reader }⟩ := by
  cases result with
  | error error =>
    have hgathered : ofReader (fun reader => reader.gather extent.size.toNat) source =
        ⟨.error (.io error), [], { source with reader }⟩ := by
      simp only [ofReader, hgather]
      rfl
    rw [bind_apply_of_error hgathered]
    rfl
  | ok bytes =>
    have hgathered : ofReader (fun reader => reader.gather extent.size.toNat) source =
        ⟨.ok bytes, [], { source with reader }⟩ := by
      simp only [ofReader, hgather]
      rfl
    rw [bind_apply_of_ok hgathered, complete]
    by_cases hlength : bytes.length = extent.size.toNat
    · rw [if_pos hlength, if_pos hlength]
      rfl
    · rw [if_neg hlength, if_neg hlength]
      rfl

section Inside

variable (h : extent.offset.toNat + extent.size.toNat ≤ source.length.toNat)

include h

/-- Once the extent has passed, the reader decides. -/
lemma readAt_of_inside :
    readAt part extent source =
      ((ofReader fun reader => reader.seek extent.offset.toNat) >>= fun _ =>
        (ofReader fun reader => reader.gather extent.size.toNat) >>= fun bytes =>
          if bytes.length = extent.size.toNat then pure bytes
          else fail (.format (.truncated part extent.offset extent.size
            bytes.length.toUInt64))) source := by
  have hlength : length source = ⟨.ok source.length, [], source⟩ := rfl
  have hstep : ofExcept (checkExtent part extent source.length) source = ⟨.ok (), [], source⟩ := by
    rw [checkExtent_eq, Extent.check_eq_ok_iff.mpr h]
    rfl
  rw [readAt, bind_apply_of_ok hlength, bind_apply_of_ok hstep]
  rfl

lemma readAt_of_failsToSeek (hseek : source.reader.FailsToSeek) :
    ∃ rest, readAt part extent source = ⟨.error (.io source.reader.seekError), [], rest⟩ ∧
      source.Later rest ∧ rest.reader.seeks = source.reader.seeks + 1 := by
  have hmove : ofReader (fun reader => reader.seek extent.offset.toNat) source =
      ⟨.error (.io source.reader.seekError), [],
        { source with reader := { source.reader with seeks := source.reader.seeks + 1 } }⟩ := by
    simp only [ofReader, Reader.seek_of_eq hseek]
    rfl
  rw [readAt_of_inside h, bind_apply_of_error hmove]
  exact ⟨_, rfl, ⟨rfl, rfl, rfl, rfl, rfl, rfl⟩, rfl⟩

/-- A read whose move succeeds comes to what is gathered at its offset. -/
theorem readAt_of_not_failsToSeek (hseek : ¬source.reader.FailsToSeek) :
    ∃ rest, readAt part extent source =
      ⟨complete part extent (source.reader.gatherAt extent.offset.toNat extent.size.toNat), [],
        rest⟩ ∧ source.Later rest ∧ rest.reader.seeks = source.reader.seeks + 1 := by
  let moved : Reader :=
    { source.reader with
      seeks := source.reader.seeks + 1, position := extent.offset.toNat,
      ahead := source.reader.content.drop extent.offset.toNat, ahead_eq := rfl }
  have hmove : ofReader (fun reader => reader.seek extent.offset.toNat) source =
      ⟨.ok (), [], { source with reader := moved }⟩ := by
    simp only [ofReader, Reader.seek_of_ne hseek]
    rfl
  obtain ⟨result, count, hgather⟩ := moved.exists_gather_eq extent.size.toNat
  have hresult : source.reader.gatherAt extent.offset.toNat extent.size.toNat = result := by
    have hplaced : source.reader.gatherAt extent.offset.toNat extent.size.toNat =
        (moved.gather extent.size.toNat).1 := Reader.gather_congr rfl rfl rfl rfl rfl
    rw [hplaced, hgather]
  have hbytes := @gather_bind_apply { source with reader := moved } part extent _ _ hgather
  refine ⟨{ source with reader := moved.advance count }, ?_,
    ⟨rfl, rfl, rfl, rfl, rfl, rfl⟩, rfl⟩
  rw [readAt_of_inside h, bind_apply_of_ok hmove, hresult, hbytes]
  rfl

end Inside

end ReadAt

end Inspection

/-! ### The outcome as a formula -/

namespace Extent

/-- Reading the extent runs into a fault: it starts at or behind the fault, or the content leads
up to the fault before the extent ends. -/
def strikes (extent : Extent) (content : Bytes) (fault : Nat) : Bool :=
  fault ≤ extent.offset.toNat ∨
    fault ≤ content.length ∧ fault < extent.offset.toNat + extent.size.toNat

/-- What a positioned read of the extent comes to, given the bytes that there are, the recorded
length, the position from which on reads fail, and the error that they fail with. -/
def outcome (extent : Extent) (part : Part) (content : Bytes) (length : UInt64)
    (readFault? : Option Nat) (readError : IoError) : Except Fault Bytes :=
  let offset := extent.offset.toNat
  let size := extent.size.toNat
  if length.toNat < offset + size then
    .error (.format (.truncated part extent.offset extent.size
      (length.toNat - offset).toUInt64))
  else if size = 0 then
    .ok []
  else if readFault?.any (extent.strikes content) then
    .error (.io readError)
  else if offset + size ≤ content.length then
    .ok (slice content offset size)
  else
    .error (.format (.truncated part extent.offset extent.size
      (content.length - offset).toUInt64))

end Extent

section Formula

variable {reader : Reader} {part : Part} {extent : Extent}

lemma Reader.exists_meets_iff (hprogress : reader.chunk? ≠ some 0) :
    (∃ fault, reader.readFault? = some fault ∧
      (reader.placed extent.offset.toNat).Meets fault extent.size.toNat) ↔
      extent.size.toNat ≠ 0 ∧ reader.readFault?.any (extent.strikes reader.content) = true := by
  have hstarved : ¬reader.Starved := hprogress
  rw [Option.any_eq_true]
  simp only [meets_placed_iff, Extent.strikes, hstarved, not_false_eq_true, true_and,
    decide_eq_true_eq]
  constructor
  · rintro ⟨fault, hfault, hsize, hstrikes⟩
    exact ⟨hsize, fault, hfault, hstrikes⟩
  · rintro ⟨hsize, fault, hfault, hstrikes⟩
    exact ⟨fault, hfault, hsize, hstrikes⟩

/-- Past the check of the extent, the formula is what is made of the gathered bytes. -/
lemma Inspection.complete_gatherAt {length : UInt64} (hprogress : reader.chunk? ≠ some 0)
    (h : extent.offset.toNat + extent.size.toNat ≤ length.toNat) :
    complete part extent (reader.gatherAt extent.offset.toNat extent.size.toNat) =
      extent.outcome part reader.content length reader.readFault? reader.readError := by
  have hstarved : ¬reader.Starved := hprogress
  rw [Extent.outcome]
  simp only [if_neg (Nat.not_lt.mpr h)]
  rcases reader.gatherAt_cases extent.offset.toNat extent.size.toNat with ⟨fault, hmeets⟩ | hnot
  · obtain ⟨hsize, hstrikes⟩ := (Reader.exists_meets_iff hprogress).mp ⟨fault, hmeets⟩
    rw [Reader.gatherAt_of_meets hmeets.1 hmeets.2, if_neg hsize, if_pos hstrikes, complete]
  · rw [Reader.gatherAt_of_not_meets hnot, if_neg hstarved, complete]
    by_cases hsize : extent.size.toNat = 0
    · rw [if_pos hsize, hsize, slice, List.take_zero]
      rfl
    · have hclear : ¬reader.readFault?.any (extent.strikes reader.content) = true := by
        intro hstrikes
        obtain ⟨fault, hfault, hmeets⟩ :=
          (Reader.exists_meets_iff hprogress).mpr ⟨hsize, hstrikes⟩
        exact hnot fault hfault hmeets
      rw [if_neg hsize, if_neg hclear]
      by_cases hthere : extent.offset.toNat + extent.size.toNat ≤ reader.content.length
      · rw [if_pos (length_slice hthere), if_pos hthere]
      · have hshort : (slice reader.content extent.offset.toNat extent.size.toNat).length =
            reader.content.length - extent.offset.toNat := by
          rw [slice, List.length_take, List.length_drop]
          omega
        rw [if_neg hthere, hshort, if_neg (by omega)]

end Formula

namespace Inspection

/-- A positioned read comes to what the formula says, on every source that makes progress and
moves its cursor this time. So neither the size of the chunks nor the place of the cursor can be
seen in it. -/
theorem readAt_eq_outcome {source : Source} (part : Part) (extent : Extent)
    (hprogress : source.reader.chunk? ≠ some 0)
    (hseek : source.reader.seekFault? ≠ some (source.reader.seeks + 1)) :
    (readAt part extent source).result =
      extent.outcome part source.reader.content source.length source.reader.readFault?
        source.reader.readError ∧
    ∀ other : Source, other.reader.content = source.reader.content →
      other.length = source.length → other.reader.readFault? = source.reader.readFault? →
      other.reader.readError = source.reader.readError → other.reader.chunk? ≠ some 0 →
      other.reader.seekFault? ≠ some (other.reader.seeks + 1) →
      (readAt part extent other).result = (readAt part extent source).result := by
  have hformula : ∀ now : Source, now.reader.chunk? ≠ some 0 →
      now.reader.seekFault? ≠ some (now.reader.seeks + 1) →
      (readAt part extent now).result =
        extent.outcome part now.reader.content now.length now.reader.readFault?
          now.reader.readError := by
    intro now hnow hmove
    by_cases h : extent.offset.toNat + extent.size.toNat ≤ now.length.toNat
    · obtain ⟨rest, hread, -⟩ := @readAt_of_not_failsToSeek now part extent h hmove
      rw [hread, complete_gatherAt hnow h]
    · have houtside := Nat.not_le.mp h
      rw [readAt_of_outside houtside, Extent.outcome, if_pos houtside]
  refine ⟨hformula source hprogress hseek, ?_⟩
  intro other hcontent hlength hfault herror hother hmove
  rw [hformula source hprogress hseek, hformula other hother hmove, hcontent, hlength, hfault,
    herror]

/-- Five bytes of which nine were reported, with a fault at the fifth: a read may end at the fault
but not pass it, and one of no bytes is not stopped by it. -/
theorem readAt_atFault :
    let source : Source :=
      { reader :=
          { content := [1, 2, 3, 4, 5], reportedLength := 9, chunk? := some 2,
            readFault? := some 4, position := 3, ahead := [4, 5] }
        length := 9 }
    let fresh : Source :=
      { reader := { content := [1, 2, 3, 4, 5], reportedLength := 9, readFault? := some 4 }
        length := 9 }
    (source.reader.chunk? ≠ some 0 ∧
      source.reader.seekFault? ≠ some (source.reader.seeks + 1)) ∧
    (readAt .nameTable ⟨1, 3⟩ source).result = .ok [2, 3, 4] ∧
    (readAt .nameTable ⟨1, 4⟩ source).result = .error (.io .readFault) ∧
    (readAt .nameTable ⟨6, 0⟩ source).result = .ok [] ∧
    (readAt .nameTable ⟨6, 4⟩ source).result =
      .error (.format (.truncated .nameTable 6 4 3)) ∧
    (readAt .nameTable ⟨1, 3⟩ fresh).result = (readAt .nameTable ⟨1, 3⟩ source).result := by
  intro source fresh
  have hprogress : source.reader.chunk? ≠ some 0 := by decide
  have hseek : source.reader.seekFault? ≠ some (source.reader.seeks + 1) := by decide
  have hread : ∀ extent, (readAt .nameTable extent source).result =
      extent.outcome .nameTable [1, 2, 3, 4, 5] 9 (some 4) .readFault :=
    fun extent => (readAt_eq_outcome .nameTable extent hprogress hseek).1
  refine ⟨⟨hprogress, hseek⟩, hread _, hread _, hread _, hread _, ?_⟩
  exact (readAt_eq_outcome .nameTable ⟨1, 3⟩ hprogress hseek).2 fresh rfl rfl rfl rfl
    (by decide) (by decide)

end Inspection

end ElfInspect
