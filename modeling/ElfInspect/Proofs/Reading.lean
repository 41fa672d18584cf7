import ElfInspect.Source.Basic
import Mathlib.Tactic.Lemma

/-!
# What readers give

A reader gathers in as many reads as its chunks and its fault make necessary. The reads do
not show in the outcome: either the fault stands in the way of the wanted bytes, or they come
as far as the content has them. So the outcome is a function of the content, the cursor and
the place of the fault, and two readers can be compared without following their reads.
-/

namespace ElfInspect

namespace Reader

/-! ### Moves of the cursor -/

lemma seek_of_eq {reader : Reader} (h : reader.seekFault? = some (reader.seeks + 1))
    (position : Nat) :
    reader.seek position = (.error reader.seekError, { reader with seeks := reader.seeks + 1 }) := by
  simp [seek, h]

lemma seek_of_ne {reader : Reader} (h : reader.seekFault? ≠ some (reader.seeks + 1))
    (position : Nat) :
    reader.seek position =
      (.ok (), { reader with
        seeks := reader.seeks + 1, position, ahead := reader.content.drop position,
        ahead_eq := rfl }) := by
  simp [seek, h]

lemma seeks_seek (reader : Reader) (position : Nat) :
    (reader.seek position).2.seeks = reader.seeks + 1 := by
  by_cases h : reader.seekFault? = some (reader.seeks + 1)
  · rw [seek_of_eq h]
  · rw [seek_of_ne h]

/-! ### Deliveries -/

/-- A reader that gives nothing however much it has. -/
def Starved (reader : Reader) : Prop :=
  reader.chunk? = some 0

instance (reader : Reader) : Decidable reader.Starved :=
  inferInstanceAs (Decidable (reader.chunk? = some 0))

/-- What the next `wanted` bytes come to as long as no fault is met. -/
def delivery (reader : Reader) (wanted : Nat) : Bytes :=
  if reader.Starved then [] else reader.ahead.take wanted

/-- A fault at `fault` is met on the way through the next `wanted` bytes: the cursor is at it
already, or the content leads up to it before the last of these bytes. -/
def Meets (reader : Reader) (fault wanted : Nat) : Prop :=
  wanted ≠ 0 ∧ (fault ≤ reader.position ∨
    ¬reader.Starved ∧ fault ≤ reader.content.length ∧ fault < reader.position + wanted)

lemma advance_zero (reader : Reader) : reader.advance 0 = reader := by
  simp [advance]

lemma advance_advance (reader : Reader) (m n : Nat) :
    (reader.advance m).advance n = reader.advance (m + n) := by
  simp [advance, Nat.add_assoc]

lemma length_ahead (reader : Reader) :
    reader.ahead.length = reader.content.length - reader.position := by
  rw [reader.ahead_eq, List.length_drop]

lemma delivery_zero (reader : Reader) : reader.delivery 0 = [] := by
  simp [delivery]

lemma allowance_of_starved {reader : Reader} (h : reader.Starved) (wanted : Nat) :
    reader.allowance wanted = 0 := by
  unfold Starved at h
  unfold allowance
  rw [h]
  cases reader.readFault? <;> simp

lemma allowance_pos {reader : Reader} {wanted : Nat} (hstarved : ¬reader.Starved)
    (hwanted : wanted ≠ 0) (hfails : reader.failsHere = false) : 0 < reader.allowance wanted := by
  have hlimit : ∀ chunk, reader.chunk? = some chunk → 0 < min wanted chunk := by
    intro chunk hchunk
    have hne : chunk ≠ 0 := by
      rintro rfl
      exact hstarved hchunk
    omega
  unfold allowance
  unfold failsHere at hfails
  cases hfault : reader.readFault? with
  | none =>
    cases hchunk : reader.chunk? with
    | none => exact Nat.pos_of_ne_zero hwanted
    | some chunk => exact hlimit chunk hchunk
  | some fault =>
    rw [hfault] at hfails
    have hlt : reader.position < fault := Nat.lt_of_not_le (of_decide_eq_false hfails)
    cases hchunk : reader.chunk? with
    | none => exact Nat.lt_min.mpr ⟨Nat.pos_of_ne_zero hwanted, Nat.sub_pos_of_lt hlt⟩
    | some chunk => exact Nat.lt_min.mpr ⟨hlimit chunk hchunk, Nat.sub_pos_of_lt hlt⟩

lemma allowance_le_of_fault {reader : Reader} {fault : Nat} (h : reader.readFault? = some fault)
    (wanted : Nat) : reader.allowance wanted ≤ fault - reader.position := by
  unfold allowance
  rw [h]
  exact Nat.min_le_right _ _

/-! ### One turn of the loop -/

section Turn

variable {reader rest : Reader} {wanted : Nat} {block : Bytes}

lemma gatherFrom_of_error {error : IoError} (h : reader.read wanted = (.error error, rest))
    (found : Bytes) : gatherFrom wanted found reader = (.error error, rest) := by
  unfold gatherFrom
  split <;> simp_all

lemma gatherFrom_of_nil (h : reader.read wanted = (.ok [], rest)) (found : Bytes) :
    gatherFrom wanted found reader = (.ok found.reverse, rest) := by
  unfold gatherFrom
  split <;> simp_all

lemma gatherFrom_of_ne_nil (h : reader.read wanted = (.ok block, rest)) (hblock : block ≠ [])
    (found : Bytes) :
    gatherFrom wanted found reader =
      gatherFrom (wanted - block.length) (block.reverse ++ found) rest := by
  obtain ⟨byte, tail, rfl⟩ := List.exists_cons_of_ne_nil hblock
  rw [gatherFrom]
  split <;> simp_all [List.reverseAux_eq]

lemma read_of_failsHere (hwanted : wanted ≠ 0) (h : reader.failsHere = true) :
    reader.read wanted = (.error reader.readError, reader) := by
  simp [read, hwanted, h]

lemma read_of_not_failsHere (hwanted : wanted ≠ 0) (h : reader.failsHere = false) :
    reader.read wanted = (.ok (reader.ahead.take (reader.allowance wanted)),
      reader.advance (min (reader.allowance wanted) reader.ahead.length)) := by
  simp [read, hwanted, h]

/-- A turn without a fault ends the loop, because nothing comes, or takes a number of bytes
that neither the content nor the fault falls short of. -/
lemma gatherFrom_turn (hwanted : wanted ≠ 0) (hfails : reader.failsHere = false)
    (found : Bytes) :
    (reader.delivery wanted = [] ∧ gatherFrom wanted found reader = (.ok found.reverse, reader)) ∨
      ¬reader.Starved ∧ ∃ count, 0 < count ∧ count ≤ wanted ∧ count ≤ reader.ahead.length ∧
        (∀ fault, reader.readFault? = some fault → count ≤ fault - reader.position) ∧
        gatherFrom wanted found reader =
          gatherFrom (wanted - count) ((reader.ahead.take count).reverse ++ found)
            (reader.advance count) := by
  let count := min (reader.allowance wanted) reader.ahead.length
  have hread : reader.read wanted = (.ok (reader.ahead.take count), reader.advance count) := by
    rw [read_of_not_failsHere hwanted hfails, List.take_eq_take_min]
  have hlength : (reader.ahead.take count).length = count := by
    rw [List.length_take]
    omega
  by_cases hcount : count = 0
  · left
    rw [hcount, advance_zero, List.take_zero] at hread
    refine ⟨?_, gatherFrom_of_nil hread found⟩
    unfold delivery
    split
    · rfl
    · rename_i hstarved
      have hpos := allowance_pos hstarved hwanted hfails
      have hahead : reader.ahead = [] := List.length_eq_zero_iff.mp (by omega)
      rw [hahead, List.take_nil]
  · right
    have hne : reader.ahead.take count ≠ [] := by
      intro hnil
      rw [hnil, List.length_nil] at hlength
      exact hcount hlength.symm
    have hstarved : ¬reader.Starved := by
      intro hstarved
      have hallowance := allowance_of_starved hstarved wanted
      omega
    have hallowance := reader.allowance_le wanted
    refine ⟨hstarved, count, by omega, by omega, by omega, ?_, ?_⟩
    · intro fault hfault
      have hle := allowance_le_of_fault hfault wanted
      omega
    · rw [gatherFrom_of_ne_nil hread hne, hlength]

end Turn

/-! ### The whole loop -/

/-- The bytes of a delivery come in any two portions. -/
lemma delivery_eq_append {reader : Reader} {count wanted : Nat} (hstarved : ¬reader.Starved)
    (h : count ≤ wanted) :
    reader.delivery wanted =
      reader.ahead.take count ++ (reader.advance count).delivery (wanted - count) := by
  have hstarved' : ¬(reader.advance count).Starved := hstarved
  have hahead : (reader.advance count).ahead = reader.ahead.drop count := rfl
  rw [delivery, if_neg hstarved, delivery, if_neg hstarved', hahead, ← List.take_add]
  congr 1
  omega

/-- Bytes taken short of the fault leave it as it was for the bytes after them. -/
lemma meets_advance_iff {reader : Reader} {wanted fault count : Nat} (hstarved : ¬reader.Starved)
    (hpos : 0 < count) (hcount : count ≤ wanted) (hahead : count ≤ reader.ahead.length)
    (hfault : count ≤ fault - reader.position) :
    (reader.advance count).Meets fault (wanted - count) ↔ reader.Meets fault wanted := by
  have hstarved' : ¬(reader.advance count).Starved := hstarved
  have hposition : (reader.advance count).position = reader.position + count := rfl
  have hcontent : (reader.advance count).content = reader.content := rfl
  rw [length_ahead] at hahead
  unfold Meets
  rw [hposition, hcontent]
  simp only [hstarved, hstarved', not_false_eq_true, true_and]
  omega

/-- Where no fault is met, the bytes come in the end, however many reads it takes. -/
theorem gatherFrom_of_not_meets (wanted : Nat) (found : Bytes) (reader : Reader)
    (h : ∀ fault, reader.readFault? = some fault → ¬reader.Meets fault wanted) :
    gatherFrom wanted found reader =
      (.ok (found.reverse ++ reader.delivery wanted),
        reader.advance (reader.delivery wanted).length) := by
  induction wanted using Nat.strongRecOn generalizing found reader with
  | ind wanted ih =>
    by_cases hwanted : wanted = 0
    · subst hwanted
      rw [gatherFrom_of_nil (read_zero reader), delivery_zero, List.append_nil, List.length_nil,
        advance_zero]
    have hfails : reader.failsHere = false := by
      unfold failsHere
      cases hfault : reader.readFault? with
      | none => rfl
      | some fault => exact decide_eq_false fun hle => h fault hfault ⟨hwanted, .inl hle⟩
    rcases gatherFrom_turn hwanted hfails found with
      ⟨hnil, hturn⟩ | ⟨hstarved, count, hpos, hle, hahead, hcount, hturn⟩
    · rw [hturn, hnil, List.append_nil, List.length_nil, advance_zero]
    · have hnext := ih (wanted - count) (by omega) ((reader.ahead.take count).reverse ++ found)
        (reader.advance count) (fun fault hfault hmeets => h fault hfault
          ((meets_advance_iff hstarved hpos hle hahead (hcount fault hfault)).mp hmeets))
      have hlength : (reader.ahead.take count).length = count := by
        rw [List.length_take]
        omega
      rw [hturn, hnext, delivery_eq_append hstarved hle, advance_advance, List.length_append,
        hlength, List.reverse_append, List.reverse_reverse, List.append_assoc]

/-- A fault that is met ends the loop at the fault, or where the cursor is if that is past it. -/
theorem gatherFrom_of_meets (wanted : Nat) (found : Bytes) (reader : Reader) {fault : Nat}
    (hfault : reader.readFault? = some fault) (h : reader.Meets fault wanted) :
    gatherFrom wanted found reader =
      (.error reader.readError, reader.advance (fault - reader.position)) := by
  induction wanted using Nat.strongRecOn generalizing found reader with
  | ind wanted ih =>
    have hwanted := h.1
    cases hfails : reader.failsHere with
    | true =>
      have hle : fault ≤ reader.position := by
        unfold failsHere at hfails
        rw [hfault] at hfails
        exact of_decide_eq_true hfails
      rw [gatherFrom_of_error (read_of_failsHere hwanted hfails), Nat.sub_eq_zero_of_le hle,
        advance_zero]
    | false =>
      have hlt : reader.position < fault := by
        unfold failsHere at hfails
        rw [hfault] at hfails
        exact Nat.lt_of_not_le (of_decide_eq_false hfails)
      obtain ⟨hstarved, hcontent, hwithin⟩ := h.2.resolve_left (by omega)
      rcases gatherFrom_turn hwanted hfails found with
        ⟨hnil, -⟩ | ⟨-, count, hpos, hle, hahead, hcount, hturn⟩
      · rw [delivery, if_neg hstarved] at hnil
        have hlength := congrArg List.length hnil
        rw [List.length_take, length_ahead, List.length_nil] at hlength
        omega
      · have hcount := hcount fault hfault
        have hmeets := (meets_advance_iff hstarved hpos hle hahead hcount).mpr h
        have hnext := ih (wanted - count) (by omega) ((reader.ahead.take count).reverse ++ found)
          (reader.advance count) hfault hmeets
        have hposition : (reader.advance count).position = reader.position + count := rfl
        rw [hturn, hnext, advance_advance, hposition]
        congr 2
        omega

theorem gather_of_not_meets {reader : Reader} {wanted : Nat}
    (h : ∀ fault, reader.readFault? = some fault → ¬reader.Meets fault wanted) :
    reader.gather wanted =
      (.ok (reader.delivery wanted), reader.advance (reader.delivery wanted).length) :=
  gatherFrom_of_not_meets wanted [] reader h

theorem gather_of_meets {reader : Reader} {wanted fault : Nat}
    (hfault : reader.readFault? = some fault) (h : reader.Meets fault wanted) :
    reader.gather wanted =
      (.error reader.readError, reader.advance (fault - reader.position)) :=
  gatherFrom_of_meets wanted [] reader hfault h

/-- A fault is met, or else the delivery comes. -/
lemma gather_cases (reader : Reader) (wanted : Nat) :
    (∃ fault, reader.readFault? = some fault ∧ reader.Meets fault wanted) ∨
      ∀ fault, reader.readFault? = some fault → ¬reader.Meets fault wanted := by
  by_cases h : ∃ fault, reader.readFault? = some fault ∧ reader.Meets fault wanted
  · exact .inl h
  · exact .inr fun fault hfault hmeets => h ⟨fault, hfault, hmeets⟩

/-- Gathering moves the cursor and does nothing else to a reader. -/
lemma exists_gather_eq (reader : Reader) (wanted : Nat) :
    ∃ result count, reader.gather wanted = (result, reader.advance count) := by
  rcases reader.gather_cases wanted with ⟨fault, hfault, hmeets⟩ | h
  · exact ⟨_, _, gather_of_meets hfault hmeets⟩
  · exact ⟨_, _, gather_of_not_meets h⟩

/-! ### Taking up -/

/-- The reader with its cursor back at the start, after the two moves of taking it up. -/
def takenUp (reader : Reader) : Reader :=
  { reader with
    seeks := reader.seeks + 2, position := 0, ahead := reader.content, ahead_eq := rfl }

end Reader

namespace Source

lemma ofReader_of_eq {reader : Reader}
    (h : reader.seekFault? = some (reader.seeks + 1) ∨
      reader.seekFault? = some (reader.seeks + 2)) :
    ofReader reader = .error reader.seekError := by
  by_cases hfirst : reader.seekFault? = some (reader.seeks + 1)
  · rw [ofReader, Reader.seek_of_eq hfirst]
    rfl
  · have hsecond := h.resolve_left hfirst
    rw [ofReader, Reader.seek_of_ne hfirst]
    simp only
    rw [Reader.seek_of_eq hsecond]
    rfl

lemma ofReader_of_ne {reader : Reader} (hfirst : reader.seekFault? ≠ some (reader.seeks + 1))
    (hsecond : reader.seekFault? ≠ some (reader.seeks + 2)) :
    ofReader reader = .ok { reader := reader.takenUp, length := reader.reportedLength } := by
  rw [ofReader, Reader.seek_of_ne hfirst]
  simp only
  rw [Reader.seek_of_ne hsecond]
  rfl

lemma ofReader_of_eq_none {reader : Reader} (h : reader.seekFault? = none) :
    ofReader reader = .ok { reader := reader.takenUp, length := reader.reportedLength } := by
  have hne : ∀ move, reader.seekFault? ≠ some move := by
    intro move
    rw [h]
    exact nofun
  exact ofReader_of_ne (hne _) (hne _)

end Source

end ElfInspect
