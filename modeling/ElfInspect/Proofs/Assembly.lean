import ElfInspect.Proofs.Verdict

/-!
# Putting files together

A header, some bytes and a table of records, written one after another. What was written is
found again by position, and in a series of forms every one starts where those before it end.
-/

namespace ElfInspect

namespace Layout

/-- A header, the bytes behind it, and a table at the end. -/
def assemble (order : ByteOrder) (header : FileHeader) (payload : Bytes)
    (records : List SectionHeader) : Bytes :=
  header.encode order ++ payload ++ records.flatMap (SectionHeader.encode order)

/-! ### Written structures by position -/

section Written

variable {order : ByteOrder}

lemma length_toList_ident (header : FileHeader) : header.ident.toList.length = 16 := by
  rw [Vector.length_toList]

lemma ident_encode_append (header : FileHeader) (rest : Bytes) :
    ident (header.encode order ++ rest) = header.ident := by
  ext i hi
  have hlength := length_toList_ident header
  rw [getElem_ident, List.getD_eq_getElem?_getD, FileHeader.encode, List.append_assoc,
    List.getElem?_append_left (by omega), List.getElem?_eq_getElem (by omega), Option.getD_some,
    Vector.getElem_toList]

lemma headerIn_encode_append (header : FileHeader) (rest : Bytes) :
    headerIn order (header.encode order ++ rest) = header := by
  have hlength : 64 ≤ (header.encode order ++ rest).length := by
    rw [List.length_append, FileHeader.length_encode]
    exact Nat.le_add_right _ _
  have hdrop : (header.encode order ++ rest).drop 16 = header.encodeFields order ++ rest := by
    rw [FileHeader.encode, List.append_assoc, List.drop_left' (length_toList_ident header)]
  have hwritten := FileHeader.decodeFields_encodeFields_append order header rest
  have hread := @decodeFields_drop order _ hlength
  rw [ident_encode_append, hdrop, hwritten, Except.ok.injEq, Prod.mk.injEq] at hread
  exact hread.1.symm

lemma length_flatMap_encode (records : List SectionHeader) :
    (records.flatMap (SectionHeader.encode order)).length = 64 * records.length := by
  induction records with
  | nil => rfl
  | cons record records ih =>
    rw [List.flatMap_cons, List.length_append, ih, SectionHeader.length_encode, List.length_cons,
      SectionHeader.byteSize]
    omega

lemma recordAt_append_flatMap (front : Bytes) (records : List SectionHeader) :
    ((List.range records.length).map fun i => recordAt order
      (front ++ records.flatMap (SectionHeader.encode order)) (front.length + 64 * i)) =
      records := by
  have hlength : front.length + 64 * records.length ≤
      (front ++ records.flatMap (SectionHeader.encode order)).length := by
    apply Nat.le_of_eq
    rw [List.length_append, length_flatMap_encode]
  have hread := @many_decode_drop order _ _ records.length hlength
  have hwritten := Decoder.many_flatMap_append (SectionHeader.decode_encode_append order) records []
  rw [List.append_nil] at hwritten
  rw [List.drop_left, hwritten, Except.ok.injEq, Prod.mk.injEq] at hread
  exact hread.1.symm

end Written

/-! ### The three parts by position -/

section Assemble

variable {order : ByteOrder} {header : FileHeader} {payload : Bytes}
  {records : List SectionHeader}

lemma length_assemble :
    (assemble order header payload records).length =
      64 + payload.length + 64 * records.length := by
  rw [assemble, List.length_append, List.length_append, FileHeader.length_encode,
    length_flatMap_encode, FileHeader.byteSize]

lemma slice_assemble_header :
    slice (assemble order header payload records) 0 64 = header.encode order := by
  have hlength : (header.encode order).length = 64 := FileHeader.length_encode order header
  rw [slice, List.drop_zero, assemble, List.append_assoc, List.take_left' hlength]

lemma slice_assemble_payload {start size : Nat} (hstart : 64 ≤ start)
    (hstop : start + size ≤ 64 + payload.length) :
    slice (assemble order header payload records) start size =
      slice payload (start - 64) size := by
  have hlength : (header.encode order).length = 64 := FileHeader.length_encode order header
  have hsplit : start = (header.encode order).length + (start - 64) := by omega
  have hwithin : start + size ≤ (header.encode order ++ payload).length := by
    rw [List.length_append]
    omega
  rw [assemble, slice_append_left hwithin, hsplit, slice_append_right, hlength,
    Nat.add_sub_cancel_left]

lemma slice_assemble_table :
    slice (assemble order header payload records) (64 + payload.length) (64 * records.length) =
      records.flatMap (SectionHeader.encode order) := by
  have hlength : (header.encode order ++ payload).length = 64 + payload.length := by
    rw [List.length_append, FileHeader.length_encode, FileHeader.byteSize]
  have htable := @length_flatMap_encode order records
  rw [assemble, slice, List.drop_left' hlength, ← htable, List.take_length]

end Assemble

end Layout

/-! ### Running positions -/

section Running

variable {α : Type} (form : α → Bytes)

lemma drop_flatMap (values : List α) (index : Nat) :
    (values.flatMap form).drop ((values.take index).flatMap form).length =
      (values.drop index).flatMap form := by
  have hsplit : values.flatMap form =
      (values.take index).flatMap form ++ (values.drop index).flatMap form := by
    rw [← List.flatMap_append, List.take_append_drop]
  rw [hsplit, List.drop_left]

lemma drop_flatMap_of_getElem? {values : List α} {index : Nat} {value : α}
    (h : values[index]? = some value) :
    (values.flatMap form).drop ((values.take index).flatMap form).length =
      form value ++ (values.drop (index + 1)).flatMap form := by
  obtain ⟨hlt, rfl⟩ := List.getElem?_eq_some_iff.mp h
  rw [drop_flatMap, List.drop_eq_getElem_cons hlt, List.flatMap_cons]

lemma length_take_flatMap_le {values : List α} {index : Nat} {value : α}
    (h : values[index]? = some value) :
    ((values.take index).flatMap form).length + (form value).length ≤
      (values.flatMap form).length := by
  have hdrop := congrArg List.length (drop_flatMap_of_getElem? form h)
  rw [List.length_drop, List.length_append] at hdrop
  have hsplit : values.flatMap form =
      (values.take index).flatMap form ++ (values.drop index).flatMap form := by
    rw [← List.flatMap_append, List.take_append_drop]
  rw [hsplit] at hdrop ⊢
  rw [List.length_append] at hdrop ⊢
  omega

end Running

end ElfInspect
