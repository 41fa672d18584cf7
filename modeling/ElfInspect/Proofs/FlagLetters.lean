import ElfInspect.Section.Label
import Mathlib.Data.Nat.Bitwise
import Mathlib.Tactic.Lemma

/-!
# Flag letters

A letter stands for one bit of a word of flags. The letters that are written are those of the known
bits that are set, so two words have the same letters exactly if they agree on the known bits. All
known bits are in the lower half of the word: what the upper half holds makes no difference.
-/

namespace ElfInspect.SectionHeader

/-- The bits that have letters, by number: the flags `0x1`, `0x2`, `0x4`, those from `0x10` to
`0x400`, and `0x80000000`. -/
def knownBits : List Nat := [0, 1, 2, 4, 5, 6, 7, 8, 9, 10, 31]

/-- The letters of the known bits, in the order of the bits. -/
def knownLetters : List Char := "WAXMSILOGTE".toList

/-- The letter stands for the bit. -/
def IsLetterOf (letter : Char) (bit : Nat) : Prop :=
  (bit, letter) ∈ knownBits.zip knownLetters

/-! ### Known bits and their letters -/

lemma lt_of_mem_knownBits : ∀ bit ∈ knownBits, bit < 32 := by
  decide

lemma nodup_knownLetters : knownLetters.Nodup := by
  decide

section

variable {letter : Char} {bit bit' : Nat}

lemma exists_isLetterOf (h : bit ∈ knownBits) : ∃ letter, IsLetterOf letter bit := by
  have hbits : (knownBits.zip knownLetters).map Prod.fst = knownBits :=
    List.map_fst_zip (by decide)
  rw [← hbits] at h
  obtain ⟨⟨bit, letter⟩, hmem, rfl⟩ := List.mem_map.mp h
  exact ⟨letter, hmem⟩

/-- No letter stands for two bits. -/
lemma IsLetterOf.unique (h : IsLetterOf letter bit) (h' : IsLetterOf letter bit') : bit = bit' := by
  have hunique : ∀ known ∈ knownBits.zip knownLetters, ∀ known' ∈ knownBits.zip knownLetters,
      known.2 = known'.2 → known.1 = known'.1 := by
    decide
  exact hunique _ h _ h' rfl

end

/-! ### Masks -/

/-- Each mask has one bit, that of its letter. -/
lemma flagTable_eq_map :
    flagTable = (knownBits.zip knownLetters).map fun known =>
      ((Nat.pow 2 known.1).toUInt64, known.2) := by
  decide

lemma and_mask_ne_zero_iff {bit : Nat} (h : bit < 64) (flags : UInt64) :
    flags &&& (Nat.pow 2 bit).toUInt64 ≠ 0 ↔ flags.toNat.testBit bit = true := by
  have hmask : (Nat.pow 2 bit).toUInt64.toNat = 2 ^ bit :=
    UInt64.toNat_ofNat_of_lt' (Nat.pow_lt_pow_of_lt (by omega) h)
  rw [ne_eq, ← UInt64.toNat_inj, UInt64.toNat_and, hmask, UInt64.toNat_zero, Nat.and_two_pow]
  cases flags.toNat.testBit bit <;> simp

section

variable {a b : UInt64} {letter : Char} {bit : Nat}

/-! ### Letters of a word -/

lemma toList_flagLetters (flags : UInt64) :
    (flagLetters flags).toList =
      ((knownBits.zip knownLetters).filter fun known => flags.toNat.testBit known.1).map
        Prod.snd := by
  rw [flagLetters, String.toList_ofList, flagTable_eq_map, List.filter_map, List.map_map]
  have hbits : ∀ known ∈ knownBits.zip knownLetters,
      decide (flags &&& (Nat.pow 2 known.1).toUInt64 ≠ 0) = flags.toNat.testBit known.1 := by
    intro known hknown
    have hlt := lt_of_mem_knownBits known.1 (List.of_mem_zip hknown).1
    rw [Bool.eq_iff_iff, decide_eq_true_iff]
    exact and_mask_ne_zero_iff (by omega) flags
  rw [← List.filter_congr hbits]
  rfl

lemma mem_flagLetters_iff :
    letter ∈ (flagLetters a).toList ↔ ∃ bit, IsLetterOf letter bit ∧ a.toNat.testBit bit = true := by
  rw [toList_flagLetters, List.mem_map]
  constructor
  · rintro ⟨⟨bit, letter⟩, hmem, rfl⟩
    exact ⟨bit, List.mem_filter.mp hmem⟩
  · rintro ⟨bit, hmem⟩
    exact ⟨(bit, letter), List.mem_filter.mpr hmem, rfl⟩

/-- A known bit is seen by its letter alone. -/
lemma IsLetterOf.mem_iff (h : IsLetterOf letter bit) :
    letter ∈ (flagLetters a).toList ↔ a.toNat.testBit bit = true := by
  rw [mem_flagLetters_iff]
  constructor
  · rintro ⟨bit', h', hset⟩
    rwa [h.unique h']
  · intro hset
    exact ⟨bit, h, hset⟩

lemma sublist_flagLetters (flags : UInt64) : (flagLetters flags).toList.Sublist knownLetters := by
  have hletters : (knownBits.zip knownLetters).map Prod.snd = knownLetters :=
    List.map_snd_zip (by decide)
  rw [toList_flagLetters, ← hletters]
  exact List.filter_sublist.map Prod.snd

/-! ### Two words -/

lemma flagLetters_eq_iff :
    flagLetters a = flagLetters b ↔
      ∀ bit ∈ knownBits, a.toNat.testBit bit = b.toNat.testBit bit := by
  constructor
  · intro h bit hbit
    obtain ⟨letter, hletter⟩ := exists_isLetterOf hbit
    rw [Bool.eq_iff_iff, ← hletter.mem_iff, ← hletter.mem_iff, h]
  · intro h
    have hfilter : ∀ known ∈ knownBits.zip knownLetters,
        a.toNat.testBit known.1 = b.toNat.testBit known.1 :=
      fun known hknown => h known.1 (List.of_mem_zip hknown).1
    rw [← String.toList_inj, toList_flagLetters, toList_flagLetters, List.filter_congr hfilter]

lemma mem_flagLetters_or_iff :
    letter ∈ (flagLetters (a ||| b)).toList ↔
      letter ∈ (flagLetters a).toList ∨ letter ∈ (flagLetters b).toList := by
  simp only [mem_flagLetters_iff, UInt64.toNat_or, Nat.testBit_or, Bool.or_eq_true, and_or_left,
    exists_or]

/-- Here it matters that a letter has one bit only: with two bits, each word could have set another
one of them. -/
lemma mem_flagLetters_and_iff :
    letter ∈ (flagLetters (a &&& b)).toList ↔
      letter ∈ (flagLetters a).toList ∧ letter ∈ (flagLetters b).toList := by
  constructor
  · intro h
    obtain ⟨bit, hletter, hset⟩ := mem_flagLetters_iff.mp h
    rw [UInt64.toNat_and, Nat.testBit_and, Bool.and_eq_true] at hset
    exact ⟨hletter.mem_iff.mpr hset.1, hletter.mem_iff.mpr hset.2⟩
  · rintro ⟨ha, hb⟩
    obtain ⟨bit, hletter, hset⟩ := mem_flagLetters_iff.mp ha
    have hset' := hletter.mem_iff.mp hb
    rw [hletter.mem_iff, UInt64.toNat_and, Nat.testBit_and, hset, hset']
    rfl

lemma flagLetters_eq_of_toUInt32_eq (h : a.toUInt32 = b.toUInt32) :
    flagLetters a = flagLetters b := by
  rw [← UInt32.toNat_inj, UInt64.toNat_toUInt32, UInt64.toNat_toUInt32] at h
  rw [flagLetters_eq_iff]
  intro bit hbit
  have hbits := congrArg (Nat.testBit · bit) h
  simpa only [Nat.testBit_mod_two_pow, lt_of_mem_knownBits bit hbit, decide_true, Bool.true_and]
    using hbits

end

/-- The letters show the known bits and no others: words with the same letters are those that agree
on the known bits, whatever is in the upper half. The letters of the bits that are set stand in one
fixed order, each once. Those of `a ||| b` are the letters of either word, and those of `a &&& b`
the letters of both. -/
theorem flagLetters_show_knownBits (a b : UInt64) :
    (flagLetters a = flagLetters b ↔
      ∀ bit ∈ knownBits, a.toNat.testBit bit = b.toNat.testBit bit) ∧
    (a.toUInt32 = b.toUInt32 → flagLetters a = flagLetters b) ∧
    (flagLetters a).toList.Sublist "WAXMSILOGTE".toList ∧ (flagLetters a).toList.Nodup ∧
    ∀ letter,
      (letter ∈ (flagLetters a).toList ↔
        ∃ bit, IsLetterOf letter bit ∧ a.toNat.testBit bit = true) ∧
      (letter ∈ (flagLetters (a ||| b)).toList ↔
        letter ∈ (flagLetters a).toList ∨ letter ∈ (flagLetters b).toList) ∧
      (letter ∈ (flagLetters (a &&& b)).toList ↔
        letter ∈ (flagLetters a).toList ∧ letter ∈ (flagLetters b).toList) := by
  refine ⟨flagLetters_eq_iff, flagLetters_eq_of_toUInt32_eq, sublist_flagLetters a,
    (sublist_flagLetters a).nodup nodup_knownLetters, fun letter => ⟨?_, ?_, ?_⟩⟩
  · exact mem_flagLetters_iff
  · exact mem_flagLetters_or_iff
  · exact mem_flagLetters_and_iff

/-- A word of 32 bits, the same with its sign extended, and the same with the bit `0x8`, which has
no letter. -/
theorem flagLetters_show_knownBits_signExtended :
    flagLetters 0x80000006 = "AXE" ∧
      (0xffffffff80000006 : UInt64).toUInt32 = (0x80000006 : UInt64).toUInt32 ∧
      flagLetters 0xffffffff80000006 = flagLetters 0x80000006 ∧
      (∀ bit ∈ knownBits,
        (0x8000000e : UInt64).toNat.testBit bit = (0x80000006 : UInt64).toNat.testBit bit) ∧
      flagLetters 0x8000000e = flagLetters 0x80000006 := by
  obtain ⟨-, hhalf, -⟩ := flagLetters_show_knownBits 0xffffffff80000006 0x80000006
  obtain ⟨hbits, -⟩ := flagLetters_show_knownBits 0x8000000e 0x80000006
  have hagree : ∀ bit ∈ knownBits,
      (0x8000000e : UInt64).toNat.testBit bit = (0x80000006 : UInt64).toNat.testBit bit := by
    decide
  exact ⟨by decide, by decide, hhalf (by decide), hagree, hbits.mpr hagree⟩

end ElfInspect.SectionHeader
