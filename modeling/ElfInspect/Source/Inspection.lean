import ElfInspect.Event
import ElfInspect.Source.Reader

/-!
# Inspections

A source is a reader with the length found when it was first taken up. An inspection is an
operation on a source: it gives a value or a fault, writes to the log, and leaves the source
with its cursor elsewhere. What was logged before a fault stays in the log.
-/

namespace ElfInspect

structure Source where
  reader : Reader
  length : UInt64

structure Outcome (α : Type) where
  result : Except Fault α
  log : List Event
  source : Source

def Inspection (α : Type) := Source → Outcome α

namespace Inspection

variable {α β : Type}

/-- Hands a value to the next step; the step's log follows the log so far. -/
def andThen (first : Inspection α) (next : α → Inspection β) : Inspection β := fun source =>
  match first source with
  | ⟨.ok value, log, source⟩ =>
    let ⟨result, more, source⟩ := next value source
    ⟨result, log ++ more, source⟩
  | ⟨.error fault, log, source⟩ => ⟨.error fault, log, source⟩

instance : Monad Inspection where
  pure value := fun source => ⟨.ok value, [], source⟩
  bind := andThen

instance : LawfulMonad Inspection := LawfulMonad.mk' Inspection
  (by
    intro α x
    funext source
    simp only [Functor.map, andThen]
    rcases x source with ⟨_ | _, log, rest⟩ <;> simp [Function.comp])
  (by intros; rfl)
  (by
    intro α β γ x f g
    funext source
    simp only [bind, andThen]
    rcases x source with ⟨_ | value, log, rest⟩
    · rfl
    · simp only
      rcases f value rest with ⟨_ | value, more, rest⟩ <;> simp)

def note (events : List Event) : Inspection Unit := fun source =>
  ⟨.ok (), events, source⟩

/-- Goes on with a value or stops at a fault. -/
def ofExcept (result : Except Fault α) : Inspection α := fun source =>
  ⟨result, [], source⟩

def fail (fault : Fault) : Inspection α :=
  ofExcept (.error fault)

/-- The length found when the source was taken up. -/
def length : Inspection UInt64 := fun source =>
  ⟨.ok source.length, [], source⟩

/-- An operation of the reader; its failures are faults of the inspection. -/
def ofReader (operation : Reader → Except IoError α × Reader) : Inspection α := fun source =>
  let (result, reader) := operation source.reader
  ⟨result.mapError Fault.io, [], { source with reader }⟩

theorem pure_apply (value : α) (source : Source) :
    (pure value : Inspection α) source = ⟨.ok value, [], source⟩ := rfl

theorem bind_apply_of_ok {first : Inspection α} {next : α → Inspection β} {source rest : Source}
    {value : α} {log : List Event} (h : first source = ⟨.ok value, log, rest⟩) :
    (first >>= next) source =
      { next value rest with log := log ++ (next value rest).log } := by
  simp [bind, andThen, h]

theorem bind_apply_of_error {first : Inspection α} {next : α → Inspection β}
    {source rest : Source} {fault : Fault} {log : List Event}
    (h : first source = ⟨.error fault, log, rest⟩) :
    (first >>= next) source = ⟨.error fault, log, rest⟩ := by
  simp [bind, andThen, h]

end Inspection

end ElfInspect
