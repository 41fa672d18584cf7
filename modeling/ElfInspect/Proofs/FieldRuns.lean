import ElfInspect.Proofs.Layout

/-!
# Runs of fields

Numbers of two, four and eight bytes are read one after another with one decoder. A number is the
value of its bytes as base-256 digits, and its bytes begin where those of the fields before it
end. A run goes on as long as there are bytes for its next field, and what was written field by
field is read back.
-/

namespace ElfInspect

/-- The value of base-256 digits: the first digit is the least significant one in little endian
order and the most significant one in big endian order. -/
def ByteOrder.value : ByteOrder → Bytes → Nat
  | little, bytes => bytes.foldr (fun digit value => digit.toNat + 256 * value) 0
  | big, bytes => bytes.foldl (fun value digit => 256 * value + digit.toNat) 0

namespace ByteOrder

lemma ofDigits_eq_foldr (bytes : Bytes) :
    ofDigits bytes = bytes.foldr (fun digit value => digit.toNat + 256 * value) 0 := by
  induction bytes with
  | nil => rfl
  | cons digit rest ih => rw [ofDigits, List.foldr_cons, ih]

lemma decode_eq_value (order : ByteOrder) (bytes : Bytes) :
    order.decode bytes = order.value bytes := by
  cases order with
  | little => exact ofDigits_eq_foldr bytes
  | big =>
    rw [decode, leastFirst, ofDigits_eq_foldr, List.foldr_reverse, value]
    congr
    funext value digit
    exact Nat.add_comm _ _

end ByteOrder

/-- The kinds of numbers in headers and records. -/
inductive Field where
  | half
  | word
  | xword
  deriving DecidableEq

namespace Field

def width : Field → Nat
  | half => 2
  | word => 4
  | xword => 8

/-- The next field as a number. -/
def read (order : ByteOrder) : Field → Decoder Nat
  | half => UInt16.toNat <$> Decoder.half order
  | word => UInt32.toNat <$> Decoder.word order
  | xword => UInt64.toNat <$> Decoder.xword order

/-- The next fields, one after another. -/
def readAll (order : ByteOrder) (fields : List Field) : Decoder (List Nat) :=
  fields.mapM (read order)

/-- The number of bytes of some fields. -/
def total : List Field → Nat
  | [] => 0
  | field :: fields => field.width + total fields

/-- The values of fields that stand one after another from a position on. -/
def valuesAt (order : ByteOrder) (bytes : Bytes) : Nat → List Field → List Nat
  | _, [] => []
  | start, field :: fields =>
    order.value (slice bytes start field.width) ::
      valuesAt order bytes (start + field.width) fields

/-- The bytes of some fields with their values, in a byte order. -/
def writeAll (order : ByteOrder) (items : List (Field × Nat)) : Bytes :=
  items.flatMap fun item => order.encode item.1.width item.2

section

variable {order : ByteOrder} {bytes rest : Bytes} {field : Field} {n start : Nat}

/-! ### One field -/

lemma read_of_number (hlt : n < Nat.pow 256 field.width)
    (h : Decoder.number order field.width bytes = .ok (n, rest)) :
    field.read order bytes = .ok (n, rest) := by
  cases field with
  | half =>
    have hback : n.toUInt16.toNat = n := UInt16.toNat_ofNat_of_lt' hlt
    simp only [width] at h
    simp only [read, Decoder.half, Functor.map, StateT.map, h]
    exact congrArg (fun value => Except.ok (value, rest)) hback
  | word =>
    have hback : n.toUInt32.toNat = n := UInt32.toNat_ofNat_of_lt' hlt
    simp only [width] at h
    simp only [read, Decoder.word, Functor.map, StateT.map, h]
    exact congrArg (fun value => Except.ok (value, rest)) hback
  | xword =>
    have hback : n.toUInt64.toNat = n := UInt64.toNat_ofNat_of_lt' hlt
    simp only [width] at h
    simp only [read, Decoder.xword, Functor.map, StateT.map, h]
    exact congrArg (fun value => Except.ok (value, rest)) hback

lemma read_drop (h : start + field.width ≤ bytes.length) :
    field.read order (bytes.drop start) =
      .ok (order.value (slice bytes start field.width), bytes.drop (start + field.width)) := by
  have hlt := order.decode_lt (slice bytes start field.width)
  rw [length_slice h, ByteOrder.decode_eq_value] at hlt
  apply read_of_number hlt
  rw [number_drop h, ByteOrder.numberAt, ByteOrder.decode_eq_value]

lemma read_of_lt (h : bytes.length < field.width) :
    field.read order bytes = .error .unexpectedEnd := by
  have hnumber := @Decoder.number_of_lt order _ _ h
  cases field <;>
  · simp only [width] at hnumber
    simp only [read, Decoder.half, Decoder.word, Decoder.xword, Functor.map, StateT.map, hnumber]
    rfl

lemma read_encode_append (h : n < Nat.pow 256 field.width) :
    field.read order (order.encode field.width n ++ rest) = .ok (n, rest) := by
  apply read_of_number h
  rw [Decoder.number_encode_append, Nat.mod_eq_of_lt h]

/-- From one end the bytes are read in the one order as from the other end in the other order. -/
lemma read_big_append (h : bytes.length = field.width) :
    field.read .big (bytes ++ rest) = field.read .little (bytes.reverse ++ rest) := by
  have hlt := ByteOrder.big.decode_lt bytes
  rw [h] at hlt
  have hreverse : ByteOrder.big.decode bytes = ByteOrder.little.decode bytes.reverse := rfl
  have hbig : Decoder.number .big field.width (bytes ++ rest) =
      .ok (ByteOrder.big.decode bytes, rest) := by
    rw [Decoder.number_of_le (by rw [List.length_append]; omega), List.take_left' h,
      List.drop_left' h]
  have hlittle : Decoder.number .little field.width (bytes.reverse ++ rest) =
      .ok (ByteOrder.big.decode bytes, rest) := by
    have hlength : bytes.reverse.length = field.width := by rw [List.length_reverse, h]
    rw [Decoder.number_of_le (by rw [List.length_append]; omega), List.take_left' hlength,
      List.drop_left' hlength, hreverse]
  rw [read_of_number hlt hbig, read_of_number hlt hlittle]

/-! ### A run of fields -/

lemma readAll_cons (field : Field) (fields : List Field) :
    readAll order (field :: fields) = (do
      let value ← field.read order
      let values ← readAll order fields
      pure (value :: values)) :=
  List.mapM_cons

lemma readAll_cons_of_ok {fields : List Field} {values : List Nat} {last : Bytes}
    (hfirst : field.read order bytes = .ok (n, rest))
    (hrest : readAll order fields rest = .ok (values, last)) :
    readAll order (field :: fields) bytes = .ok (n :: values, last) := by
  rw [readAll_cons, Decoder.bind_of_ok hfirst, Decoder.bind_of_ok hrest]
  rfl

/-- Where the run is read from the cursor stands at the bytes that no field has taken. -/
lemma readAll_drop {fields : List Field} (h : start + total fields ≤ bytes.length) :
    readAll order fields (bytes.drop start) =
      .ok (valuesAt order bytes start fields, bytes.drop (start + total fields)) := by
  induction fields generalizing start with
  | nil => rfl
  | cons field fields ih =>
    rw [total] at h
    have hfields := @ih (start + field.width) (by omega)
    have hstop : start + field.width + total fields = start + total (field :: fields) := by
      rw [total, Nat.add_assoc]
    rw [hstop] at hfields
    exact readAll_cons_of_ok (read_drop (by omega)) hfields

lemma readAll_append_of_lt {fields after : List Field}
    (hfields : start + total fields ≤ bytes.length)
    (h : bytes.length < start + total fields + field.width) :
    readAll order (fields ++ field :: after) (bytes.drop start) = .error .unexpectedEnd := by
  induction fields generalizing start with
  | nil =>
    rw [total] at h
    have hread : field.read order (bytes.drop start) = .error .unexpectedEnd :=
      read_of_lt (by rw [List.length_drop]; omega)
    rw [List.nil_append, readAll_cons]
    simp only [bind, StateT.bind, Except.bind, hread]
  | cons next fields ih =>
    rw [total] at hfields h
    have hfail := @ih (start + next.width) (by omega) (by omega)
    rw [List.cons_append, readAll_cons, Decoder.bind_of_ok (read_drop (by omega))]
    simp only [bind, StateT.bind, Except.bind, hfail]

lemma readAll_writeAll_append {items : List (Field × Nat)}
    (h : ∀ item ∈ items, item.2 < Nat.pow 256 item.1.width) :
    readAll order (items.map Prod.fst) (writeAll order items ++ rest) =
      .ok (items.map Prod.snd, rest) := by
  induction items with
  | nil => rfl
  | cons item items ih =>
    obtain ⟨hitem, hitems⟩ := List.forall_mem_cons.mp h
    rw [writeAll, List.flatMap_cons, List.append_assoc]
    exact readAll_cons_of_ok (read_encode_append hitem) (ih hitems)

end

/-- Fields are read as long as there are bytes for them, each with the value of the bytes that the
fields before it have left next, and the first one that is too long fails. A field in the one
order is the reverse of one in the other, and numbers that were written are read back. -/
theorem readAll_positional (order : ByteOrder) (bytes : Bytes) :
    (∀ fields, total fields ≤ bytes.length →
      readAll order fields bytes =
        .ok (valuesAt order bytes 0 fields, bytes.drop (total fields))) ∧
    (∀ (fields after : List Field) (field : Field), total fields ≤ bytes.length →
      bytes.length < total fields + field.width →
      field.read order (bytes.drop (total fields)) = .error .unexpectedEnd ∧
        readAll order (fields ++ field :: after) bytes = .error .unexpectedEnd) ∧
    (∀ (field : Field) (group rest : Bytes), group.length = field.width →
      field.read .big (group ++ rest) = field.read .little (group.reverse ++ rest)) ∧
    ∀ items rest, (∀ item ∈ items, item.2 < Nat.pow 256 item.1.width) →
      readAll order (items.map Prod.fst) (writeAll order items ++ rest) =
        .ok (items.map Prod.snd, rest) := by
  refine ⟨fun fields hfields => ?_, fun fields after field hfields hlong => ⟨?_, ?_⟩,
    fun _ _ _ => read_big_append, fun _ _ => readAll_writeAll_append⟩
  · have hread := @readAll_drop order bytes 0 fields (by rwa [Nat.zero_add])
    rwa [Nat.zero_add] at hread
  · apply read_of_lt
    rw [List.length_drop]
    omega
  · exact @readAll_append_of_lt order bytes field 0 fields after (by rwa [Nat.zero_add])
      (by rwa [Nat.zero_add])

/-- Eight bytes in runs that take all of them, one that wants more, and numbers written in the
place of the first six. -/
theorem readAll_eightBytes :
    let bytes : Bytes := [0x01, 0x02, 0x03, 0x04, 0x05, 0x06, 0x07, 0x08]
    total [half, half, word] ≤ bytes.length ∧
      readAll .little [half, half, word] bytes = .ok ([0x0201, 0x0403, 0x08070605], []) ∧
      total [word, half] ≤ bytes.length ∧ bytes.length < total [word, half] + word.width ∧
      readAll .little [word, half, word, half] bytes = .error .unexpectedEnd ∧
      bytes.length = xword.width ∧ xword.read .big bytes = xword.read .little bytes.reverse ∧
      (∀ item ∈ [(half, 0xffff), (word, 0x90a)], item.2 < Nat.pow 256 item.1.width) ∧
      readAll .little [half, word] [0xff, 0xff, 0x0a, 0x09, 0x00, 0x00, 0x07, 0x08] =
        .ok ([0xffff, 0x90a], [0x07, 0x08]) := by
  intro bytes
  obtain ⟨hread, hfail, hreverse, hback⟩ := readAll_positional .little bytes
  have hitems : ∀ item ∈ [(half, 0xffff), (word, 0x90a)],
      item.2 < Nat.pow 256 item.1.width := by
    decide
  refine ⟨by decide, hread [half, half, word] (by decide), by decide, by decide, ?_, rfl,
    ?_, hitems, hback _ [0x07, 0x08] hitems⟩
  · exact (hfail [word, half] [half] word (by decide) (by decide)).2
  · exact hreverse xword bytes [] rfl

end Field

end ElfInspect
