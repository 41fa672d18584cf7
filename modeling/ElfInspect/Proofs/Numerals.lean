import ElfInspect.Text.Numeral
import Mathlib.Logic.Function.Basic
import Mathlib.Tactic.Lemma

/-!
# Numerals read back

Different numbers have different numerals of one kind, since the digits can be read back. Zeros
in front do not count, and the digits of a byte are always two.
-/

namespace ElfInspect.Numeral

/-- The value of a decimal or a lower-case hexadecimal digit. -/
def digitValue (char : Char) : Nat :=
  if char.isDigit then char.toNat - 0x30 else char.toNat - 0x57

/-- The number that digits stand for. -/
def valueOf (base : Nat) (digits : List Char) : Nat :=
  digits.foldl (fun value digit => value * base + digitValue digit) 0

lemma digitValue_digitChar : ∀ n < 16, digitValue (Nat.digitChar n) = n := by
  decide

lemma valueOf_toDigits {base : Nat} (h : 1 < base) (hle : base ≤ 16) (n : Nat) :
    valueOf base (Nat.toDigits base n) = n := by
  induction n using Nat.strongRecOn with
  | ind n ih =>
    rw [Nat.toDigits_eq_if h]
    by_cases hlt : n < base
    · have hsingle : valueOf base [n.digitChar] = digitValue n.digitChar := by simp [valueOf]
      rw [if_pos hlt, hsingle, digitValue_digitChar n (by omega)]
    · rw [if_neg hlt]
      have hdigit : n % base < base := Nat.mod_lt n (by omega)
      have hfront := ih (n / base) (Nat.div_lt_self (by omega) h)
      unfold valueOf at hfront ⊢
      rw [List.foldl_append, hfront, List.foldl_cons, List.foldl_nil,
        digitValue_digitChar _ (by omega), Nat.mul_comm]
      exact Nat.div_add_mod n base

lemma valueOf_zeros_append (base count : Nat) (digits : List Char) :
    valueOf base (List.replicate count '0' ++ digits) = valueOf base digits := by
  have hzero : 0 * base + digitValue '0' = 0 := by simp [digitValue]
  induction count with
  | zero => rfl
  | succ count ih =>
    rw [List.replicate_succ, List.cons_append, ← ih, valueOf, List.foldl_cons, hzero]
    rfl

lemma decimal_injective : Function.Injective decimal := by
  have hread : Function.LeftInverse (fun text => valueOf 10 text.toList) decimal := by
    intro n
    simp only [toList_decimal]
    exact valueOf_toDigits (by omega) (by omega) n
  exact hread.injective

lemma markedHex_injective : Function.Injective markedHex := by
  have hread : Function.LeftInverse (fun text => valueOf 16 text.toList) hex := by
    intro n
    simp only [toList_hex]
    exact valueOf_toDigits (by omega) (by omega) n
  intro n m h
  exact hread.injective ((String.append_right_inj "0x").mp h)

lemma paddedHex_injective (width : Nat) : Function.Injective (paddedHex width) := by
  have hread : Function.LeftInverse (fun text => valueOf 16 text.toList) (paddedHex width) := by
    intro n
    simp only [paddedHex, fillLeft, List.leftpad, toList_hex, String.toList_ofList]
    rw [valueOf_zeros_append]
    exact valueOf_toDigits (by omega) (by omega) n
  exact hread.injective

/-! ### Bytes -/

lemma length_paddedHex {width n : Nat} (hwidth : 0 < width) (h : n < Nat.pow 16 width) :
    (paddedHex width n).toList.length = width := by
  have hle : (Nat.toDigits 16 n).length ≤ width :=
    (Nat.length_toDigits_le_iff (by omega) hwidth).mpr h
  have hlength := length_fillLeft '0' width (hex n)
  rw [paddedHex, String.length_toList, hlength, ← String.length_toList, toList_hex]
  exact Nat.max_eq_left hle

lemma length_paddedHex_byte (byte : UInt8) : (paddedHex 2 byte.toNat).toList.length = 2 :=
  length_paddedHex (by omega) byte.toNat_lt

/-- A byte behind a space, as it stands in a row of bytes. -/
def spaced (byte : UInt8) : List Char :=
  ' ' :: (paddedHex 2 byte.toNat).toList

lemma spaced_injective : Function.Injective spaced := by
  intro byte byte' h
  have hdigits := String.toList_inj.mp (List.cons.inj h).2
  exact UInt8.toNat_inj.mp (paddedHex_injective 2 hdigits)

lemma flatMap_spaced_injective : Function.Injective (List.flatMap spaced) := by
  have hlength : ∀ byte, (spaced byte).length = 3 := by
    intro byte
    rw [spaced, List.length_cons, length_paddedHex_byte]
  intro bytes bytes' h
  induction bytes generalizing bytes' with
  | nil =>
    cases bytes' with
    | nil => rfl
    | cons byte' bytes' => cases h
  | cons byte bytes ih =>
    cases bytes' with
    | nil => cases h
    | cons byte' bytes' =>
      rw [List.flatMap_cons, List.flatMap_cons] at h
      obtain ⟨hbyte, hbytes⟩ := List.append_inj h ((hlength byte).trans (hlength byte').symm)
      rw [spaced_injective hbyte, ih hbytes]

lemma space_cons_hexBytes (byte : UInt8) (bytes : List UInt8) :
    ' ' :: (hexBytes (byte :: bytes)).toList = (byte :: bytes).flatMap spaced := by
  induction bytes generalizing byte with
  | nil => simp [hexBytes, spaced]
  | cons next bytes ih =>
    have hjoin : hexBytes (byte :: next :: bytes) =
        paddedHex 2 byte.toNat ++ " " ++ hexBytes (next :: bytes) :=
      String.intercalate_cons_cons
    rw [hjoin, List.flatMap_cons, ← ih next]
    simp [spaced]

lemma hexBytes_injective : Function.Injective hexBytes := by
  have hnonempty : ∀ byte bytes, hexBytes (byte :: bytes) ≠ hexBytes [] := by
    intro byte bytes h
    have hchars := space_cons_hexBytes byte bytes
    rw [h, List.flatMap_cons] at hchars
    have hlength := congrArg List.length hchars
    simp [hexBytes, spaced, length_paddedHex_byte] at hlength
  intro bytes bytes' h
  cases bytes with
  | nil =>
    cases bytes' with
    | nil => rfl
    | cons byte' bytes' => exact (hnonempty byte' bytes' h.symm).elim
  | cons byte bytes =>
    cases bytes' with
    | nil => exact (hnonempty byte bytes h).elim
    | cons byte' bytes' =>
      apply flatMap_spaced_injective
      rw [← space_cons_hexBytes, ← space_cons_hexBytes, h]

end ElfInspect.Numeral
