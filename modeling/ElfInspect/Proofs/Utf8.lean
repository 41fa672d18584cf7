import ElfInspect.Text.Utf8
import Mathlib.Logic.Function.Basic
import Mathlib.Tactic.Lemma

/-!
# Names that are well formed

The decoder gives back every text from its UTF-8 form. The argument goes along one character:
its lead byte begins a sequence, each of its further bytes is admitted and adds six bits, and
the last one completes the character's number.
-/

namespace ElfInspect.Utf8

/-- The UTF-8 form of a text. -/
def encode (text : String) : Bytes :=
  text.toList.flatMap String.utf8EncodeChar

/-! ### Bytes of a sequence -/

lemma toNat_tail {bits : Nat} (h : bits < 64) : (UInt8.ofNat (bits + 0x80)).toNat = bits + 0x80 :=
  Nat.mod_eq_of_lt (by omega)

lemma tail_sub {bits : Nat} (h : bits < 64) : (UInt8.ofNat (bits + 0x80) - 0x80).toNat = bits := by
  have htail := toNat_tail h
  have hle : (0x80 : UInt8) ≤ UInt8.ofNat (bits + 0x80) := by
    rw [UInt8.le_iff_toNat_le, htail]
    exact Nat.le_add_left _ _
  rw [UInt8.toNat_sub_of_le _ _ hle, htail]
  exact Nat.add_sub_cancel _ _

lemma admits_tail {sequence : Sequence} {bits : Nat} (h : bits < 64)
    (hlow : sequence.low.toNat ≤ bits + 0x80) (hhigh : bits + 0x80 ≤ sequence.high.toNat) :
    sequence.admits (UInt8.ofNat (bits + 0x80)) = true := by
  rw [Sequence.admits, Bool.and_eq_true, decide_eq_true_eq, decide_eq_true_eq,
    UInt8.le_iff_toNat_le, UInt8.le_iff_toNat_le, toNat_tail h]
  exact ⟨hlow, hhigh⟩

lemma not_lead_lt : ∀ bits < 64, ¬UInt8.ofNat (bits + 0xc0) < 0x80 := by
  decide

lemma ofLead?_two : ∀ bits < 32, 2 ≤ bits →
    Sequence.ofLead? (UInt8.ofNat (bits + 0xc0)) = some ⟨bits, 1, 0x80, 0xbf⟩ := by
  decide

lemma ofLead?_three : ∀ bits < 16,
    Sequence.ofLead? (UInt8.ofNat (bits + 0xe0)) =
      some ⟨bits, 2, if bits = 0 then 0xa0 else 0x80, if bits = 13 then 0x9f else 0xbf⟩ := by
  decide

lemma ofLead?_four : ∀ bits < 5,
    Sequence.ofLead? (UInt8.ofNat (bits + 0xf0)) =
      some ⟨bits, 3, if bits = 0 then 0x90 else 0x80, if bits = 4 then 0x8f else 0xbf⟩ := by
  decide

/-! ### Steps of the decoder -/

section Steps

variable {found : List Char} {n bits : Nat} {low high : UInt8}

lemma step_lead {byte : UInt8} {sequence : Sequence} (hbyte : ¬byte < 0x80)
    (h : Sequence.ofLead? byte = some sequence) :
    Scan.step ⟨found, none⟩ byte = ⟨found, some sequence⟩ := by
  unfold Scan.step Scan.begin
  simp only [if_neg hbyte, h]

lemma step_tail_of_more {missing : Nat} (h : bits < 64) (hlow : low.toNat ≤ bits + 0x80)
    (hhigh : bits + 0x80 ≤ high.toNat) :
    Scan.step ⟨found, some ⟨n, missing + 2, low, high⟩⟩ (UInt8.ofNat (bits + 0x80)) =
      ⟨found, some ⟨n * 64 + bits, missing + 1, 0x80, 0xbf⟩⟩ := by
  have hadmits : (Sequence.mk n (missing + 2) low high).admits (UInt8.ofNat (bits + 0x80)) = true :=
    admits_tail h hlow hhigh
  have hextend : (Sequence.mk n (missing + 2) low high).extend (UInt8.ofNat (bits + 0x80)) =
      ⟨n * 64 + bits, missing + 1, 0x80, 0xbf⟩ := by
    rw [Sequence.extend, tail_sub h]
    rfl
  unfold Scan.step
  simp only [if_pos hadmits, hextend, if_neg (Nat.succ_ne_zero missing)]

lemma step_tail_of_last (h : bits < 64) (hlow : low.toNat ≤ bits + 0x80)
    (hhigh : bits + 0x80 ≤ high.toNat) :
    Scan.step ⟨found, some ⟨n, 1, low, high⟩⟩ (UInt8.ofNat (bits + 0x80)) =
      ⟨Char.ofNat (n * 64 + bits) :: found, none⟩ := by
  have hadmits : (Sequence.mk n 1 low high).admits (UInt8.ofNat (bits + 0x80)) = true :=
    admits_tail h hlow hhigh
  have hextend : (Sequence.mk n 1 low high).extend (UInt8.ofNat (bits + 0x80)) =
      ⟨n * 64 + bits, 0, 0x80, 0xbf⟩ := by
    rw [Sequence.extend, tail_sub h]
    rfl
  unfold Scan.step
  simp only [if_pos hadmits, hextend, if_pos]

end Steps

/-! ### Characters -/

lemma ofNat_val (c : Char) {n : Nat} (h : n = c.val.toNat) : Char.ofNat n = c := by
  rw [h]
  exact Char.ofNat_toNat c

/-- No character of three bytes is overlong or a surrogate. -/
lemma second_of_three {v : Nat} (hmore : 0x7ff < v) (hle : v ≤ 0xffff)
    (hvalid : v < 0xd800 ∨ 0xdfff < v) :
    (if v / 4096 % 0x10 = 0 then (0xa0 : UInt8) else 0x80).toNat ≤ v / 64 % 0x40 + 0x80 ∧
      v / 64 % 0x40 + 0x80 ≤ (if v / 4096 % 0x10 = 13 then (0x9f : UInt8) else 0xbf).toNat := by
  constructor
  · split
    · change 0xa0 ≤ _
      omega
    · exact Nat.le_add_left _ _
  · split
    · change _ ≤ 0x9f
      omega
    · change _ ≤ 0xbf
      omega

/-- No character of four bytes is overlong or too large. -/
lemma second_of_four {v : Nat} (hmore : 0xffff < v) (hvalid : v < 0x110000) :
    (if v / 262144 % 0x08 = 0 then (0x90 : UInt8) else 0x80).toNat ≤ v / 4096 % 0x40 + 0x80 ∧
      v / 4096 % 0x40 + 0x80 ≤
        (if v / 262144 % 0x08 = 4 then (0x8f : UInt8) else 0xbf).toNat := by
  constructor
  · split
    · change 0x90 ≤ _
      omega
    · exact Nat.le_add_left _ _
  · split
    · change _ ≤ 0x8f
      omega
    · change _ ≤ 0xbf
      omega

/-- The decoder takes the bytes of a character for that character. -/
theorem foldl_utf8EncodeChar (c : Char) :
    (String.utf8EncodeChar c).foldl Scan.step {} = ⟨[c], none⟩ := by
  have hvalid : c.val.toNat < 0xd800 ∨ 0xdfff < c.val.toNat ∧ c.val.toNat < 0x110000 := c.valid
  have hlow : (0x80 : UInt8).toNat = 0x80 := rfl
  have hhigh : (0xbf : UInt8).toNat = 0xbf := rfl
  unfold String.utf8EncodeChar
  simp only
  generalize hv : c.val.toNat = v at hvalid
  by_cases hone : v ≤ 0x7f
  · have hascii : UInt8.ofNat v < 0x80 := by
      rw [UInt8.lt_iff_toNat_lt, hlow, UInt8.toNat_ofNat']
      omega
    rw [if_pos hone]
    simp only [List.foldl_cons, List.foldl_nil, Scan.step, Scan.begin, if_pos hascii]
    rw [ofNat_val c (by rw [hv, UInt8.toNat_ofNat']; omega)]
  rw [if_neg hone]
  by_cases htwo : v ≤ 0x7ff
  · have hlead := ofLead?_two (v / 64 % 0x20) (by omega) (by omega)
    rw [if_pos htwo]
    simp only [List.foldl_cons, List.foldl_nil]
    rw [step_lead (not_lead_lt _ (by omega)) hlead,
      step_tail_of_last (by omega) (by omega) (by omega), ofNat_val c (by omega)]
  rw [if_neg htwo]
  by_cases hthree : v ≤ 0xffff
  · have hlead := ofLead?_three (v / 4096 % 0x10) (by omega)
    obtain ⟨hsecond, hsecond'⟩ := second_of_three (by omega) hthree (by omega)
    rw [if_pos hthree]
    simp only [List.foldl_cons, List.foldl_nil]
    rw [step_lead (not_lead_lt _ (by omega)) hlead,
      step_tail_of_more (by omega) hsecond hsecond',
      step_tail_of_last (by omega) (by omega) (by omega), ofNat_val c (by omega)]
  · have hlead := ofLead?_four (v / 262144 % 0x08) (by omega)
    obtain ⟨hsecond, hsecond'⟩ := @second_of_four v (by omega) (by omega)
    rw [if_neg hthree]
    simp only [List.foldl_cons, List.foldl_nil]
    rw [step_lead (not_lead_lt _ (by omega)) hlead,
      step_tail_of_more (by omega) hsecond hsecond',
      step_tail_of_more (by omega) (by omega) (by omega),
      step_tail_of_last (by omega) (by omega) (by omega), ofNat_val c (by omega)]

/-- Different characters have different forms. -/
lemma utf8EncodeChar_injective : Function.Injective String.utf8EncodeChar := by
  intro c c' h
  have hscan := congrArg (List.foldl Scan.step {}) h
  rw [foldl_utf8EncodeChar, foldl_utf8EncodeChar] at hscan
  exact (List.cons.inj (congrArg Scan.found hscan)).1

/-! ### Texts -/

lemma decodeChars_utf8EncodeChar_append (c : Char) (rest : Bytes) :
    decodeChars (String.utf8EncodeChar c ++ rest) = c :: decodeChars rest := by
  rw [decodeChars, List.foldl_append, foldl_utf8EncodeChar, finish_foldl_found]
  rfl

/-- A text in front of any bytes is decoded as it is, and the bytes by themselves. -/
theorem decodeChars_flatMap_append (chars : List Char) (rest : Bytes) :
    decodeChars (chars.flatMap String.utf8EncodeChar ++ rest) = chars ++ decodeChars rest := by
  induction chars with
  | nil => rfl
  | cons c chars ih =>
    rw [List.flatMap_cons, List.append_assoc, decodeChars_utf8EncodeChar_append, ih,
      List.cons_append]

theorem decode_encode (text : String) : decode (encode text) = text := by
  have hchars := decodeChars_flatMap_append text.toList []
  rw [List.append_nil, decodeChars_nil, List.append_nil] at hchars
  rw [decode, encode, hchars, String.ofList_toList]

end ElfInspect.Utf8
