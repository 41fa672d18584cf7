import ElfInspect.Fault

/-!
# Extents

An extent is a stretch of a file, given by its offset and size as the file's words state
them. The end of an extent may lie past the largest word; such an extent fits in no file.
-/

namespace ElfInspect

structure Extent where
  offset : UInt64
  size : UInt64
  deriving DecidableEq, Repr

namespace Extent

/-- The position after the last byte, if it is a word at all: a sum of two words that wraps
is smaller than either of them. -/
def stop? (extent : Extent) : Option UInt64 :=
  let stop := extent.offset + extent.size
  if stop < extent.offset then none else some stop

/-- Whether every byte of the extent lies in a file of `length` bytes. -/
def fits (extent : Extent) (length : UInt64) : Bool :=
  match extent.stop? with
  | some stop => stop ≤ length
  | none => false

/-- How many bytes a file of `length` bytes has from the extent's offset on. -/
def available (extent : Extent) (length : UInt64) : UInt64 :=
  if extent.offset ≤ length then length - extent.offset else 0

/-- Lets an extent pass if it fits, and else reports the part as truncated. The tables of a header,
the sections and the reads each have their own form of this check. -/
def check (extent : Extent) (part : Part) (length : UInt64) : Except Fault Unit :=
  if extent.fits length then
    .ok ()
  else
    .error (.format (.truncated part extent.offset extent.size (extent.available length)))

/-- Fitting is a statement about natural numbers: nothing wraps. -/
theorem fits_iff {extent : Extent} {length : UInt64} :
    extent.fits length = true ↔
      extent.offset.toNat + extent.size.toNat ≤ length.toNat := by
  have hsize := extent.size.toNat_lt
  have hoffset := extent.offset.toNat_lt
  have hlength := length.toNat_lt
  have hsum : (extent.offset + extent.size).toNat =
      (extent.offset.toNat + extent.size.toNat) % 2 ^ 64 := UInt64.toNat_add ..
  unfold fits stop?
  dsimp only
  by_cases hwrap : extent.offset + extent.size < extent.offset
  · rw [if_pos hwrap]
    rw [UInt64.lt_iff_toNat_lt] at hwrap
    simp only [Bool.false_eq_true, false_iff]
    omega
  · rw [if_neg hwrap]
    rw [UInt64.lt_iff_toNat_lt] at hwrap
    simp only [decide_eq_true_eq, UInt64.le_iff_toNat_le]
    omega

theorem toNat_available (extent : Extent) (length : UInt64) :
    (extent.available length).toNat = length.toNat - extent.offset.toNat := by
  unfold available
  split
  · rename_i h
    exact UInt64.toNat_sub_of_le _ _ h
  · rename_i h
    rw [UInt64.le_iff_toNat_le] at h
    simp only [UInt64.toNat_ofNat, Nat.zero_mod]
    omega

theorem check_eq_ok_iff {extent : Extent} {part : Part} {length : UInt64} :
    extent.check part length = .ok () ↔
      extent.offset.toNat + extent.size.toNat ≤ length.toNat := by
  rw [← fits_iff]
  unfold check
  split <;> simp_all

end Extent

end ElfInspect
