import ElfInspect.Byte.Order
import ElfInspect.Fault

/-!
# Field decoders

A decoder takes fields one after another from the front of a byte string and hands on what
is left. It fails when fewer bytes are left than the next field has.
-/

namespace ElfInspect

abbrev Decoder := StateT Bytes (Except IoError)

namespace Decoder

/-- The next `width` bytes as they stand. -/
def block (width : Nat) : Decoder (Vector UInt8 width) := fun bytes =>
  let group := bytes.take width
  if h : group.length = width then
    .ok (⟨group.toArray, by simpa using h⟩, bytes.drop width)
  else
    .error .unexpectedEnd

def number (order : ByteOrder) (width : Nat) : Decoder Nat := fun bytes =>
  let group := bytes.take width
  if group.length = width then
    .ok (order.decode group, bytes.drop width)
  else
    .error .unexpectedEnd

def half (order : ByteOrder) : Decoder UInt16 :=
  Nat.toUInt16 <$> number order 2

def word (order : ByteOrder) : Decoder UInt32 :=
  Nat.toUInt32 <$> number order 4

def xword (order : ByteOrder) : Decoder UInt64 :=
  Nat.toUInt64 <$> number order 8

/-- Runs a decoder `count` times; `found` holds the earlier values, latest first. -/
def manyFrom {α : Type} (item : Decoder α) : Nat → List α → Bytes → Except IoError (List α × Bytes)
  | 0, found, bytes => .ok (found.reverse, bytes)
  | count + 1, found, bytes =>
    match item bytes with
    | .ok (value, rest) => manyFrom item count (value :: found) rest
    | .error error => .error error

def many {α : Type} (item : Decoder α) (count : Nat) : Decoder (List α) :=
  manyFrom item count []

theorem block_of_le {width : Nat} {bytes : Bytes} (h : width ≤ bytes.length) :
    block width bytes =
      .ok (⟨(bytes.take width).toArray, by simp [Nat.min_eq_left h]⟩, bytes.drop width) := by
  simp [block, Nat.min_eq_left h]

theorem number_of_le {order : ByteOrder} {width : Nat} {bytes : Bytes} (h : width ≤ bytes.length) :
    number order width bytes = .ok (order.decode (bytes.take width), bytes.drop width) := by
  simp [number, Nat.min_eq_left h]

theorem number_of_lt {order : ByteOrder} {width : Nat} {bytes : Bytes} (h : bytes.length < width) :
    number order width bytes = .error .unexpectedEnd := by
  have hne : min width bytes.length ≠ width := by omega
  simp [number, hne]

/-- A number written in front of any bytes is read back, cut to its width. -/
theorem number_encode_append (order : ByteOrder) (width n : Nat) (rest : Bytes) :
    number order width (order.encode width n ++ rest) = .ok (n % Nat.pow 256 width, rest) := by
  rw [number_of_le (by simp), List.take_left' (by simp), List.drop_left' (by simp),
    ByteOrder.decode_encode]

theorem half_encode_append (order : ByteOrder) (n : UInt16) (rest : Bytes) :
    half order (order.encode 2 n.toNat ++ rest) = .ok (n, rest) := by
  have h := n.toNat_lt
  simp [half, Functor.map, StateT.map, Bind.bind, Except.bind, pure, Except.pure,
    number_encode_append, Nat.mod_eq_of_lt h]

theorem word_encode_append (order : ByteOrder) (n : UInt32) (rest : Bytes) :
    word order (order.encode 4 n.toNat ++ rest) = .ok (n, rest) := by
  have h := n.toNat_lt
  simp [word, Functor.map, StateT.map, Bind.bind, Except.bind, pure, Except.pure,
    number_encode_append, Nat.mod_eq_of_lt h]

theorem xword_encode_append (order : ByteOrder) (n : UInt64) (rest : Bytes) :
    xword order (order.encode 8 n.toNat ++ rest) = .ok (n, rest) := by
  have h := n.toNat_lt
  simp [xword, Functor.map, StateT.map, Bind.bind, Except.bind, pure, Except.pure,
    number_encode_append, Nat.mod_eq_of_lt h]

/-- What follows a decoder that succeeds goes on with the rest. -/
theorem bind_of_ok {α β : Type} {first : Decoder α} {next : α → Decoder β} {bytes rest : Bytes}
    {value : α} (h : first bytes = .ok (value, rest)) :
    (first >>= next) bytes = next value rest := by
  simp [Bind.bind, StateT.bind, Except.bind, h]

/-- The values found earlier stand before the ones still to come. -/
theorem manyFrom_eq {α : Type} (item : Decoder α) (count : Nat) (found : List α) (bytes : Bytes) :
    manyFrom item count found bytes =
      (manyFrom item count [] bytes).map fun p => (found.reverse ++ p.1, p.2) := by
  induction count generalizing found bytes with
  | zero => simp [manyFrom, Except.map]
  | succ count ih =>
    simp only [manyFrom]
    cases item bytes with
    | error error => rfl
    | ok p =>
      simp only
      rw [ih (p.1 :: found), ih [p.1]]
      cases manyFrom item count [] p.2 <;> simp [Except.map]

/-- One value comes first, the other `count` follow it. -/
theorem many_succ {α : Type} (item : Decoder α) (count : Nat) :
    many item (count + 1) = (do
      let value ← item
      let values ← many item count
      pure (value :: values)) := by
  funext bytes
  simp only [many, manyFrom, bind, StateT.bind, Except.bind]
  cases item bytes with
  | error error => rfl
  | ok p =>
    simp only
    rw [manyFrom_eq]
    cases manyFrom item count [] p.2 <;> rfl

theorem many_flatMap_append {α : Type} {item : Decoder α} {encode : α → Bytes}
    (h : ∀ value rest, item (encode value ++ rest) = .ok (value, rest)) (values : List α)
    (rest : Bytes) :
    many item values.length (values.flatMap encode ++ rest) = .ok (values, rest) := by
  induction values with
  | nil => rfl
  | cons value values ih =>
    rw [List.length_cons, many_succ, List.flatMap_cons, List.append_assoc, bind_of_ok (h ..),
      bind_of_ok ih]
    rfl

end Decoder

end ElfInspect
