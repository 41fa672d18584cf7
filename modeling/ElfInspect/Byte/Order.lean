/-!
# Byte orders

A number in an object file is a group of bytes, read as base-256 digits. The order says
which end of the group carries the least significant digit.
-/

namespace ElfInspect

abbrev Bytes := List UInt8

inductive ByteOrder where
  | little
  | big
  deriving DecidableEq, Repr

namespace ByteOrder

/-- The order that a data encoding code declares; every other code declares none. -/
def ofCode? (code : UInt8) : Option ByteOrder :=
  if code = 1 then some little
  else if code = 2 then some big
  else none

def code : ByteOrder → UInt8
  | little => 1
  | big => 2

/-- The bytes with the least significant one first. -/
def leastFirst : ByteOrder → Bytes → Bytes
  | little, bytes => bytes
  | big, bytes => bytes.reverse

/-- Base-256 digits, least significant first. -/
def ofDigits : Bytes → Nat
  | [] => 0
  | digit :: rest => digit.toNat + 256 * ofDigits rest

/-- The `width` lowest base-256 digits of a number, least significant first. -/
def digits : Nat → Nat → Bytes
  | 0, _ => []
  | width + 1, n => n.toUInt8 :: digits width (n / 256)

/-- The number that a group of bytes stands for. -/
def decode (order : ByteOrder) (bytes : Bytes) : Nat :=
  ofDigits (order.leastFirst bytes)

/-- The group of `width` bytes that stands for `n`. -/
def encode (order : ByteOrder) (width n : Nat) : Bytes :=
  order.leastFirst (digits width n)

theorem ofCode?_code (order : ByteOrder) : ofCode? order.code = some order := by
  cases order <;> rfl

theorem ofCode?_eq_some_iff {code : UInt8} {order : ByteOrder} :
    ofCode? code = some order ↔ code = order.code := by
  constructor
  · intro h
    unfold ofCode? at h
    split at h
    · cases h
      assumption
    · split at h
      · cases h
        assumption
      · cases h
  · rintro rfl
    exact ofCode?_code order

@[simp] theorem length_leastFirst (order : ByteOrder) (bytes : Bytes) :
    (order.leastFirst bytes).length = bytes.length := by
  cases order <;> simp [leastFirst]

@[simp] theorem leastFirst_leastFirst (order : ByteOrder) (bytes : Bytes) :
    order.leastFirst (order.leastFirst bytes) = bytes := by
  cases order <;> simp [leastFirst]

@[simp] theorem length_digits (width n : Nat) : (digits width n).length = width := by
  induction width generalizing n with
  | zero => rfl
  | succ width ih => simp [digits, ih]

@[simp] theorem length_encode (order : ByteOrder) (width n : Nat) :
    (order.encode width n).length = width := by
  simp [encode]

theorem ofDigits_lt (bytes : Bytes) : ofDigits bytes < Nat.pow 256 bytes.length := by
  induction bytes with
  | nil => simp [ofDigits]
  | cons digit rest ih =>
    have hdigit := digit.toNat_lt
    have hpow : Nat.pow 256 (rest.length + 1) = Nat.pow 256 rest.length * 256 := rfl
    rw [ofDigits, List.length_cons, hpow]
    omega

theorem ofDigits_digits (width n : Nat) : ofDigits (digits width n) = n % Nat.pow 256 width := by
  induction width generalizing n with
  | zero => simp [digits, ofDigits, Nat.mod_one]
  | succ width ih =>
    have hlow : n.toUInt8.toNat = n % 256 := by simp
    have hpow : Nat.pow 256 (width + 1) = 256 * Nat.pow 256 width := Nat.mul_comm _ 256
    rw [digits, ofDigits, ih, hlow, hpow, Nat.mod_mul]

theorem digits_ofDigits (bytes : Bytes) : digits bytes.length (ofDigits bytes) = bytes := by
  induction bytes with
  | nil => rfl
  | cons digit rest ih =>
    have hdigit := digit.toNat_lt
    have hdiv : (digit.toNat + 256 * ofDigits rest) / 256 = ofDigits rest := by omega
    have hlow : (digit.toNat + 256 * ofDigits rest).toUInt8 = digit := by
      apply UInt8.toNat_inj.mp
      simp only [Nat.toUInt8_eq, UInt8.toNat_ofNat']
      omega
    rw [List.length_cons, ofDigits, digits, hlow, hdiv, ih]

/-- Reading back what was written keeps the number, cut to the width. -/
theorem decode_encode (order : ByteOrder) (width n : Nat) :
    order.decode (order.encode width n) = n % Nat.pow 256 width := by
  simp [decode, encode, ofDigits_digits]

theorem encode_decode (order : ByteOrder) (bytes : Bytes) :
    order.encode bytes.length (order.decode bytes) = bytes := by
  have h := digits_ofDigits (order.leastFirst bytes)
  rw [length_leastFirst] at h
  rw [encode, decode, h, leastFirst_leastFirst]

theorem decode_lt (order : ByteOrder) (bytes : Bytes) :
    order.decode bytes < Nat.pow 256 bytes.length := by
  simpa [decode] using ofDigits_lt (order.leastFirst bytes)

end ByteOrder

end ElfInspect
