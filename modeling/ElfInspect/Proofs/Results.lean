import ElfInspect.Fault
import Mathlib.Tactic.Lemma

/-!
# Results

What is known of the steps of a computation that can fail once it is known what the whole of it
comes to.
-/

namespace ElfInspect

variable {α β ε : Type}

lemma ok_bind (value : α) (next : α → Except ε β) : Except.ok value >>= next = next value := rfl

lemma error_bind (error : ε) (next : α → Except ε β) :
    Except.error error >>= next = .error error := rfl

lemma exists_of_bind_eq_ok {first : Except ε α} {next : α → Except ε β} {result : β}
    (h : first >>= next = .ok result) : ∃ found, first = .ok found ∧ next found = .ok result := by
  cases first with
  | error error => cases h
  | ok found => exact ⟨found, rfl, h⟩

lemma exists_of_binds_eq_ok {first : Except ε α} {next next' : α → Except ε β} {result result' : β}
    (h : first >>= next = .ok result) (h' : first >>= next' = .ok result') :
    ∃ found, next found = .ok result ∧ next' found = .ok result' := by
  obtain ⟨found, rfl, hnext⟩ := exists_of_bind_eq_ok h
  exact ⟨found, hnext, h'⟩

lemma check_bind_eq_ok_iff {check : Except ε Unit} {value found : α} :
    (check >>= fun _ => Except.ok value) = .ok found ↔ check = .ok () ∧ value = found := by
  cases check with
  | error error =>
    rw [error_bind]
    exact ⟨nofun, fun h => nomatch h.1⟩
  | ok _ =>
    rw [ok_bind, Except.ok.injEq]
    exact ⟨fun h => ⟨rfl, h⟩, fun h => h.2⟩

lemma mapError_ok (convert : ε → Fault) (value : α) :
    (Except.ok value).mapError convert = .ok value := rfl

end ElfInspect
