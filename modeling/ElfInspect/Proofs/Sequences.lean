import ElfInspect.Proofs.Utf8
import Mathlib.Data.List.Forall2

/-!
# Well-formed sequences

The byte sequences that stand for one character, by the table of their ranges. They are the UTF-8
forms of the characters, no more and no fewer. The first byte of a sequence determines how many
bytes it has, so that no sequence is the front of a longer one.
-/

namespace ElfInspect.Utf8

/-- The bytes from `low` to `high`. -/
structure ByteRange where
  low : UInt8
  high : UInt8
  deriving DecidableEq, Repr

instance : Membership UInt8 ByteRange where
  mem range byte := range.low ≤ byte ∧ byte ≤ range.high

instance (range : ByteRange) (byte : UInt8) : Decidable (byte ∈ range) :=
  inferInstanceAs (Decidable (range.low ≤ byte ∧ byte ≤ range.high))

/-- Where every byte after the second lies, and the second after most lead bytes. -/
def ByteRange.tail : ByteRange := ⟨0x80, 0xbf⟩

/-- The kinds of sequences, each with the range of every byte. -/
def sequenceTable : List (List ByteRange) := [
  [⟨0x00, 0x7f⟩],
  [⟨0xc2, 0xdf⟩, .tail],
  [⟨0xe0, 0xe0⟩, ⟨0xa0, 0xbf⟩, .tail],
  [⟨0xe1, 0xec⟩, .tail, .tail],
  [⟨0xed, 0xed⟩, ⟨0x80, 0x9f⟩, .tail],
  [⟨0xee, 0xef⟩, .tail, .tail],
  [⟨0xf0, 0xf0⟩, ⟨0x90, 0xbf⟩, .tail, .tail],
  [⟨0xf1, 0xf3⟩, .tail, .tail, .tail],
  [⟨0xf4, 0xf4⟩, ⟨0x80, 0x8f⟩, .tail, .tail]]

/-- There is a byte for each range, and it lies in it. -/
abbrev Fits (ranges : List ByteRange) (bytes : Bytes) : Prop :=
  List.Forall₂ (fun range byte => byte ∈ range) ranges bytes

/-- The bytes are one well-formed sequence. -/
def IsSequence (bytes : Bytes) : Prop :=
  ∃ ranges ∈ sequenceTable, Fits ranges bytes

instance (bytes : Bytes) : Decidable (IsSequence bytes) :=
  inferInstanceAs (Decidable (∃ ranges ∈ sequenceTable, Fits ranges bytes))

/-! ### Lead bytes -/

/-- The ranges of the bytes that a sequence still needs. -/
def Sequence.ranges (sequence : Sequence) : List ByteRange :=
  ⟨sequence.low, sequence.high⟩ :: List.replicate (sequence.missing - 1) .tail

/-- What the table has after a lead byte. -/
def rangesAfter (byte : UInt8) : List (List ByteRange) :=
  sequenceTable.filterMap fun ranges =>
    match ranges with
    | [] => none
    | range :: ranges => if byte ∈ range then some ranges else none

lemma isSequence_cons_iff {byte : UInt8} {more : Bytes} :
    IsSequence (byte :: more) ↔ ∃ ranges ∈ rangesAfter byte, Fits ranges more := by
  simp only [IsSequence, rangesAfter, List.mem_filterMap]
  constructor
  · rintro ⟨ranges, hranges, hfits⟩
    cases hfits with
    | cons hbyte hmore => exact ⟨_, ⟨_, hranges, if_pos hbyte⟩, hmore⟩
  · rintro ⟨ranges, ⟨row, hrow, hrest⟩, hmore⟩
    cases row with
    | nil => cases hrest
    | cons range row =>
      obtain ⟨hbyte, heq⟩ := Option.ite_none_right_eq_some.mp hrest
      cases heq
      exact ⟨_, hrow, .cons hbyte hmore⟩

lemma rangesAfter_ofNat : ∀ n < 256, rangesAfter (UInt8.ofNat n) =
    if UInt8.ofNat n < 0x80 then [[]]
    else (Sequence.ofLead? (UInt8.ofNat n)).toList.map Sequence.ranges := by
  decide +kernel

/-- The decoder begins a sequence with the bytes that the table has in front. -/
lemma rangesAfter_eq (byte : UInt8) : rangesAfter byte =
    if byte < 0x80 then [[]] else (Sequence.ofLead? byte).toList.map Sequence.ranges := by
  have h := rangesAfter_ofNat byte.toNat byte.toNat_lt
  rwa [UInt8.ofNat_toNat] at h

lemma isSequence_cons_of_lt {byte : UInt8} (h : byte < 0x80) {more : Bytes} :
    IsSequence (byte :: more) ↔ more = [] := by
  rw [isSequence_cons_iff, rangesAfter_eq, if_pos h]
  simp

lemma isSequence_cons_of_not_lt {byte : UInt8} (h : ¬byte < 0x80) {more : Bytes} :
    IsSequence (byte :: more) ↔
      ∃ sequence, Sequence.ofLead? byte = some sequence ∧ Fits sequence.ranges more := by
  rw [isSequence_cons_iff, rangesAfter_eq, if_neg h]
  simp

lemma IsSequence.ne_nil {bytes : Bytes} (h : IsSequence bytes) : bytes ≠ [] := by
  rintro rfl
  exact absurd h (by decide)

/-- No sequence is the front of a longer one. -/
lemma IsSequence.eq_nil_of_append {bytes more : Bytes} (h : IsSequence bytes)
    (hmore : IsSequence (bytes ++ more)) : more = [] := by
  obtain ⟨byte, rest, rfl⟩ := List.exists_cons_of_ne_nil h.ne_nil
  rw [List.cons_append] at hmore
  by_cases hlt : byte < 0x80
  · rw [isSequence_cons_of_lt hlt] at hmore
    exact (List.append_eq_nil_iff.mp hmore).2
  · obtain ⟨sequence, hlead, hfits⟩ := (isSequence_cons_of_not_lt hlt).mp h
    obtain ⟨sequence', hlead', hfits'⟩ := (isSequence_cons_of_not_lt hlt).mp hmore
    cases hlead.symm.trans hlead'
    have hlength := hfits.length_eq.symm.trans hfits'.length_eq
    rw [List.length_append] at hlength
    exact List.eq_nil_of_length_eq_zero (by omega)

lemma Fits.le_of_mem {ranges : List ByteRange} {bytes : Bytes} (h : Fits ranges bytes)
    (hlow : ∀ range ∈ ranges, 0x80 ≤ range.low) : ∀ byte ∈ bytes, 0x80 ≤ byte := by
  induction h with
  | nil => exact fun _ hmem => nomatch hmem
  | cons hbyte _ ih =>
    obtain ⟨hrange, hranges⟩ := List.forall_mem_cons.mp hlow
    exact List.forall_mem_cons.mpr ⟨UInt8.le_trans hrange hbyte.1, ih hranges⟩

/-- Only the first byte of a sequence can be below 0x80. -/
lemma IsSequence.le_of_mem {byte : UInt8} {more : Bytes} (h : IsSequence (byte :: more)) :
    ∀ later ∈ more, 0x80 ≤ later := by
  have htable : ∀ ranges ∈ sequenceTable, ∀ range ∈ ranges.tail, 0x80 ≤ range.low := by decide
  obtain ⟨ranges, hranges, hfits⟩ := h
  cases hfits with
  | cons _ hmore => exact Fits.le_of_mem hmore (htable _ hranges)

/-! ### Sequences and characters -/

lemma mem_ofNat {range : ByteRange} {n : Nat} (hlow : range.low.toNat ≤ n)
    (hhigh : n ≤ range.high.toNat) : UInt8.ofNat n ∈ range := by
  have hn : (UInt8.ofNat n).toNat = n :=
    Nat.mod_eq_of_lt (Nat.lt_of_le_of_lt hhigh range.high.toNat_lt)
  constructor
  · rwa [UInt8.le_iff_toNat_le, hn]
  · rwa [UInt8.le_iff_toNat_le, hn]

lemma tail_mem {bits : Nat} (h : bits < 64) : UInt8.ofNat (bits + 0x80) ∈ ByteRange.tail :=
  mem_ofNat (Nat.le_add_left _ _) (Nat.le_of_lt_succ (Nat.add_lt_add_right h 0x80))

/-- The UTF-8 form of a character is a sequence. -/
lemma isSequence_utf8EncodeChar (c : Char) : IsSequence (String.utf8EncodeChar c) := by
  have hvalid : c.val.toNat < 0xd800 ∨ 0xdfff < c.val.toNat ∧ c.val.toNat < 0x110000 := c.valid
  unfold String.utf8EncodeChar
  simp only
  generalize c.val.toNat = v at hvalid
  by_cases hone : v ≤ 0x7f
  · rw [if_pos hone]
    exact ⟨[⟨0x00, 0x7f⟩], by decide, .cons (mem_ofNat (Nat.zero_le _) hone) .nil⟩
  rw [if_neg hone]
  by_cases htwo : v ≤ 0x7ff
  · have hlead := ofLead?_two (v / 64 % 0x20) (by omega) (by omega)
    rw [if_pos htwo, isSequence_cons_of_not_lt (not_lead_lt _ (by omega))]
    exact ⟨_, hlead, .cons (tail_mem (by omega)) .nil⟩
  rw [if_neg htwo]
  by_cases hthree : v ≤ 0xffff
  · have hlead := ofLead?_three (v / 4096 % 0x10) (by omega)
    obtain ⟨hsecond, hsecond'⟩ := second_of_three (by omega) hthree (by omega)
    rw [if_pos hthree, isSequence_cons_of_not_lt (not_lead_lt _ (by omega))]
    exact ⟨_, hlead, .cons (mem_ofNat hsecond hsecond') (.cons (tail_mem (by omega)) .nil)⟩
  · have hlead := ofLead?_four (v / 262144 % 0x08) (by omega)
    obtain ⟨hsecond, hsecond'⟩ := @second_of_four v (by omega) (by omega)
    rw [if_neg hthree, isSequence_cons_of_not_lt (not_lead_lt _ (by omega))]
    exact ⟨_, hlead, .cons (mem_ofNat hsecond hsecond')
      (.cons (tail_mem (by omega)) (.cons (tail_mem (by omega)) .nil))⟩

section Forms

variable {a b c d : UInt8}

lemma val_ofNat {n : Nat} (h : n < 0xd800 ∨ 0xdfff < n ∧ n < 0x110000) :
    (Char.ofNat n).val.toNat = n := by
  rw [Char.ofNat, dif_pos h]
  rfl

lemma ofNat_eq_of_toNat {n : Nat} (h : n = a.toNat) : UInt8.ofNat n = a := by
  rw [h, UInt8.ofNat_toNat]

lemma toNat_bounds {range : ByteRange} (h : a ∈ range) :
    range.low.toNat ≤ a.toNat ∧ a.toNat ≤ range.high.toNat :=
  ⟨UInt8.le_iff_toNat_le.mp h.1, UInt8.le_iff_toNat_le.mp h.2⟩

lemma utf8EncodeChar_one (ha : a.toNat ≤ 0x7f) :
    String.utf8EncodeChar (Char.ofNat a.toNat) = [a] := by
  have hval := @val_ofNat a.toNat (by omega)
  unfold String.utf8EncodeChar
  simp only [hval, if_pos ha, UInt8.ofNat_toNat]

lemma utf8EncodeChar_two (ha : 0xc2 ≤ a.toNat ∧ a.toNat ≤ 0xdf)
    (hb : 0x80 ≤ b.toNat ∧ b.toNat ≤ 0xbf) :
    String.utf8EncodeChar (Char.ofNat ((a.toNat - 0xc0) * 64 + (b.toNat - 0x80))) = [a, b] := by
  generalize hv : (a.toNat - 0xc0) * 64 + (b.toNat - 0x80) = v
  have hval := @val_ofNat v (by omega)
  have hone : ¬v ≤ 0x7f := by omega
  have htwo : v ≤ 0x7ff := by omega
  unfold String.utf8EncodeChar
  simp only [hval, if_neg hone, if_pos htwo]
  rw [ofNat_eq_of_toNat (a := a) (by omega), ofNat_eq_of_toNat (a := b) (by omega)]

lemma utf8EncodeChar_three (ha : 0xe0 ≤ a.toNat ∧ a.toNat ≤ 0xef)
    (hb : 0x80 ≤ b.toNat ∧ b.toNat ≤ 0xbf) (hc : 0x80 ≤ c.toNat ∧ c.toNat ≤ 0xbf)
    (hlong : a.toNat = 0xe0 → 0xa0 ≤ b.toNat) (hsurrogate : a.toNat = 0xed → b.toNat ≤ 0x9f) :
    String.utf8EncodeChar (Char.ofNat
      ((a.toNat - 0xe0) * 4096 + (b.toNat - 0x80) * 64 + (c.toNat - 0x80))) = [a, b, c] := by
  generalize hv : (a.toNat - 0xe0) * 4096 + (b.toNat - 0x80) * 64 + (c.toNat - 0x80) = v
  have hval := @val_ofNat v (by omega)
  have hone : ¬v ≤ 0x7f := by omega
  have htwo : ¬v ≤ 0x7ff := by omega
  have hthree : v ≤ 0xffff := by omega
  unfold String.utf8EncodeChar
  simp only [hval, if_neg hone, if_neg htwo, if_pos hthree]
  rw [ofNat_eq_of_toNat (a := a) (by omega), ofNat_eq_of_toNat (a := b) (by omega),
    ofNat_eq_of_toNat (a := c) (by omega)]

lemma utf8EncodeChar_four (ha : 0xf0 ≤ a.toNat ∧ a.toNat ≤ 0xf4)
    (hb : 0x80 ≤ b.toNat ∧ b.toNat ≤ 0xbf) (hc : 0x80 ≤ c.toNat ∧ c.toNat ≤ 0xbf)
    (hd : 0x80 ≤ d.toNat ∧ d.toNat ≤ 0xbf) (hlong : a.toNat = 0xf0 → 0x90 ≤ b.toNat)
    (hlarge : a.toNat = 0xf4 → b.toNat ≤ 0x8f) :
    String.utf8EncodeChar (Char.ofNat ((a.toNat - 0xf0) * 262144 + (b.toNat - 0x80) * 4096 +
      (c.toNat - 0x80) * 64 + (d.toNat - 0x80))) = [a, b, c, d] := by
  generalize hv : (a.toNat - 0xf0) * 262144 + (b.toNat - 0x80) * 4096 + (c.toNat - 0x80) * 64 +
    (d.toNat - 0x80) = v
  have hval := @val_ofNat v (by omega)
  have hone : ¬v ≤ 0x7f := by omega
  have htwo : ¬v ≤ 0x7ff := by omega
  have hthree : ¬v ≤ 0xffff := by omega
  unfold String.utf8EncodeChar
  simp only [hval, if_neg hone, if_neg htwo, if_neg hthree]
  rw [ofNat_eq_of_toNat (a := a) (by omega), ofNat_eq_of_toNat (a := b) (by omega),
    ofNat_eq_of_toNat (a := c) (by omega), ofNat_eq_of_toNat (a := d) (by omega)]

end Forms

section Kinds

variable {lead second : ByteRange} {bytes : Bytes}

lemma exists_char_of_two (h : Fits [⟨0xc2, 0xdf⟩, .tail] bytes) :
    ∃ c, String.utf8EncodeChar c = bytes := by
  obtain ⟨a, _, ha, hrest, rfl⟩ := List.forall₂_cons_left_iff.mp h
  obtain ⟨b, _, hb, hnil, rfl⟩ := List.forall₂_cons_left_iff.mp hrest
  cases hnil
  exact ⟨_, utf8EncodeChar_two (toNat_bounds ha) (toNat_bounds hb)⟩

lemma exists_char_of_three (h : Fits [lead, second, .tail] bytes)
    (hlead : 0xe0 ≤ lead.low.toNat ∧ lead.high.toNat ≤ 0xef)
    (hsecond : 0x80 ≤ second.low.toNat ∧ second.high.toNat ≤ 0xbf)
    (hlong : 0xe0 ∈ lead → 0xa0 ≤ second.low.toNat)
    (hsurrogate : 0xed ∈ lead → second.high.toNat ≤ 0x9f) :
    ∃ c, String.utf8EncodeChar c = bytes := by
  obtain ⟨a, _, ha, hrest, rfl⟩ := List.forall₂_cons_left_iff.mp h
  obtain ⟨b, _, hb, hrest', rfl⟩ := List.forall₂_cons_left_iff.mp hrest
  obtain ⟨c, _, hc, hnil, rfl⟩ := List.forall₂_cons_left_iff.mp hrest'
  cases hnil
  have ha' := toNat_bounds ha
  have hb' := toNat_bounds hb
  refine ⟨_, utf8EncodeChar_three (by omega) (by omega) (toNat_bounds hc) ?_ ?_⟩
  · intro heq
    obtain rfl : a = 0xe0 := UInt8.toNat_inj.mp heq
    exact Nat.le_trans (hlong ha) hb'.1
  · intro heq
    obtain rfl : a = 0xed := UInt8.toNat_inj.mp heq
    exact Nat.le_trans hb'.2 (hsurrogate ha)

lemma exists_char_of_four (h : Fits [lead, second, .tail, .tail] bytes)
    (hlead : 0xf0 ≤ lead.low.toNat ∧ lead.high.toNat ≤ 0xf4)
    (hsecond : 0x80 ≤ second.low.toNat ∧ second.high.toNat ≤ 0xbf)
    (hlong : 0xf0 ∈ lead → 0x90 ≤ second.low.toNat)
    (hlarge : 0xf4 ∈ lead → second.high.toNat ≤ 0x8f) :
    ∃ c, String.utf8EncodeChar c = bytes := by
  obtain ⟨a, _, ha, hrest, rfl⟩ := List.forall₂_cons_left_iff.mp h
  obtain ⟨b, _, hb, hrest', rfl⟩ := List.forall₂_cons_left_iff.mp hrest
  obtain ⟨c, _, hc, hrest'', rfl⟩ := List.forall₂_cons_left_iff.mp hrest'
  obtain ⟨d, _, hd, hnil, rfl⟩ := List.forall₂_cons_left_iff.mp hrest''
  cases hnil
  have ha' := toNat_bounds ha
  have hb' := toNat_bounds hb
  refine ⟨_, utf8EncodeChar_four (by omega) (by omega) (toNat_bounds hc) (toNat_bounds hd) ?_ ?_⟩
  · intro heq
    obtain rfl : a = 0xf0 := UInt8.toNat_inj.mp heq
    exact Nat.le_trans (hlong ha) hb'.1
  · intro heq
    obtain rfl : a = 0xf4 := UInt8.toNat_inj.mp heq
    exact Nat.le_trans hb'.2 (hlarge ha)

end Kinds

/-- Every sequence is the form of a character. -/
lemma IsSequence.exists_char {bytes : Bytes} (h : IsSequence bytes) :
    ∃ c, String.utf8EncodeChar c = bytes := by
  obtain ⟨ranges, hranges, hfits⟩ := h
  simp only [sequenceTable, List.mem_cons, List.not_mem_nil, or_false] at hranges
  rcases hranges with rfl | rfl | rfl | rfl | rfl | rfl | rfl | rfl | rfl
  · obtain ⟨a, _, ha, hnil, rfl⟩ := List.forall₂_cons_left_iff.mp hfits
    cases hnil
    exact ⟨_, utf8EncodeChar_one (toNat_bounds ha).2⟩
  · exact exists_char_of_two hfits
  · exact exists_char_of_three hfits (by decide) (by decide) (by decide) (by decide)
  · exact exists_char_of_three hfits (by decide) (by decide) (by decide) (by decide)
  · exact exists_char_of_three hfits (by decide) (by decide) (by decide) (by decide)
  · exact exists_char_of_three hfits (by decide) (by decide) (by decide) (by decide)
  · exact exists_char_of_four hfits (by decide) (by decide) (by decide) (by decide)
  · exact exists_char_of_four hfits (by decide) (by decide) (by decide) (by decide)
  · exact exists_char_of_four hfits (by decide) (by decide) (by decide) (by decide)

/-! ### Zero bytes -/

lemma zero_not_mem_utf8EncodeChar {c : Char} (h : c ≠ '\x00') :
    0 ∉ String.utf8EncodeChar c := by
  have hsequence := isSequence_utf8EncodeChar c
  have hnull : String.utf8EncodeChar '\x00' = [0] := by decide
  intro hmem
  cases hform : String.utf8EncodeChar c with
  | nil => exact hsequence.ne_nil hform
  | cons byte more =>
    rw [hform] at hsequence hmem
    cases hmem with
    | head =>
      rw [(isSequence_cons_of_lt (by decide)).mp hsequence] at hform
      exact h (utf8EncodeChar_injective (hform.trans hnull.symm))
    | tail _ hlater => exact absurd (hsequence.le_of_mem 0 hlater) (by decide)

/-- Only the character U+0000 has a zero byte in its form. -/
theorem zero_not_mem_encode {text : String} (h : '\x00' ∉ text.toList) : 0 ∉ encode text := by
  intro hmem
  obtain ⟨c, hc, hzero⟩ := List.mem_flatMap.mp hmem
  refine zero_not_mem_utf8EncodeChar ?_ hzero
  rintro rfl
  exact h hc

end ElfInspect.Utf8
