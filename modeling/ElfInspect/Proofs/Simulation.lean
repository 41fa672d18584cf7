import ElfInspect.Analysis
import Mathlib.Tactic.Lemma

/-!
# Paired runs

The same inspection is run on two sources that are related in some way, and the relation is
carried from step to step. A relation may allow for a number of positioned reads that are
still to come, since sources are moved by nothing else. What such a simulation has to show is
its case of the positioned read; the whole analysis follows for every simulation at once, and
with it that an analysis makes three positioned reads at most.
-/

namespace ElfInspect

/-- A relation between the sources of two runs, with the faults at which the first run may
leave the second one behind. -/
structure Simulation where
  /-- The sources are related and stay so for this many positioned reads. -/
  related : Nat → Source → Source → Prop
  excused : Fault → Prop
  related_of_le : ∀ {m n : Nat} {s t : Source}, m ≤ n → related n s t → related m s t
  length_eq : ∀ {n : Nat} {s t : Source}, related n s t → s.length = t.length

namespace Simulation

variable {α β : Type} (sim : Simulation)

/-- The outcomes agree and leave related sources, or the first run was left at an excused
fault with a log that the second run has begun with. -/
def Matches (reads : Nat) (first second : Outcome α) : Prop :=
  (first.result = second.result ∧ first.log = second.log ∧
      sim.related reads first.source second.source) ∨
    (∃ fault, first.result = .error fault ∧ sim.excused fault) ∧ first.log <+: second.log

/-- On related sources the two runs of an inspection that makes at most `reads` positioned
reads match. -/
def Respects (reads : Nat) (inspection : Inspection α) : Prop :=
  ∀ (left : Nat) (s t : Source), sim.related (left + reads) s t →
    sim.Matches left (inspection s) (inspection t)

variable {sim}

lemma Respects.of_le {m n : Nat} {inspection : Inspection α} (h : sim.Respects m inspection)
    (hle : m ≤ n) : sim.Respects n inspection := by
  intro left s t hst
  exact h left s t (sim.related_of_le (Nat.add_le_add_left hle left) hst)

/-- Matching runs are continued by matching runs. -/
theorem Respects.bind {m n : Nat} {first : Inspection α} {next : α → Inspection β}
    (hfirst : sim.Respects m first) (hnext : ∀ value, sim.Respects n (next value)) :
    sim.Respects (m + n) (first >>= next) := by
  intro left s t hst
  have hbudget : left + (m + n) = left + n + m := by omega
  rw [hbudget] at hst
  rcases hs : first s with ⟨result, log, s'⟩
  rcases ht : first t with ⟨result', log', t'⟩
  have hmatch := hfirst (left + n) s t hst
  rw [hs, ht] at hmatch
  rcases hmatch with ⟨hresult, hlog, hst'⟩ | ⟨⟨fault, hresult, hexcused⟩, hlog⟩
  · simp only at hresult hlog hst'
    subst hresult hlog
    cases result with
    | error fault =>
      rw [Inspection.bind_apply_of_error hs, Inspection.bind_apply_of_error ht]
      exact .inl ⟨rfl, rfl, sim.related_of_le (Nat.le_add_right left n) hst'⟩
    | ok value =>
      rw [Inspection.bind_apply_of_ok hs, Inspection.bind_apply_of_ok ht]
      rcases hnext value left s' t' hst' with ⟨hresult, hmore, hst''⟩ | ⟨hexcused, hmore⟩
      · exact .inl ⟨hresult, congrArg (log ++ ·) hmore, hst''⟩
      · exact .inr ⟨hexcused, (List.prefix_append_right_inj log).mpr hmore⟩
  · simp only at hresult hlog
    subst hresult
    rw [Inspection.bind_apply_of_error hs]
    refine .inr ⟨⟨fault, rfl, hexcused⟩, ?_⟩
    cases result' with
    | error fault' =>
      rw [Inspection.bind_apply_of_error ht]
      exact hlog
    | ok value =>
      rw [Inspection.bind_apply_of_ok ht]
      exact hlog.trans (List.prefix_append log' _)

lemma Respects.bind_free {n : Nat} {first : Inspection α} {next : α → Inspection β}
    (hfirst : sim.Respects n first) (hnext : ∀ value, sim.Respects 0 (next value)) :
    sim.Respects n (first >>= next) :=
  hfirst.bind hnext

lemma Respects.free_bind {n : Nat} {first : Inspection α} {next : α → Inspection β}
    (hfirst : sim.Respects 0 first) (hnext : ∀ value, sim.Respects n (next value)) :
    sim.Respects n (first >>= next) := by
  have h := hfirst.bind hnext
  rwa [Nat.zero_add] at h

/-! ### Steps that do not touch the reader -/

lemma respects_of_still {inspection : Inspection α} {result : Except Fault α} {log : List Event}
    (h : ∀ source, inspection source = ⟨result, log, source⟩) : sim.Respects 0 inspection := by
  intro left s t hst
  rw [h s, h t]
  exact .inl ⟨rfl, rfl, hst⟩

lemma respects_pure (value : α) : sim.Respects 0 (pure value : Inspection α) :=
  respects_of_still (fun source => Inspection.pure_apply value source)

lemma respects_note (events : List Event) : sim.Respects 0 (Inspection.note events) :=
  respects_of_still (fun _ => rfl)

lemma respects_ofExcept (result : Except Fault α) :
    sim.Respects 0 (Inspection.ofExcept result) :=
  respects_of_still (fun _ => rfl)

lemma respects_length : sim.Respects 0 Inspection.length := by
  intro left s t hst
  refine .inl ⟨?_, rfl, hst⟩
  simp only [Inspection.length, sim.length_eq hst]

/-! ### The positioned read -/

lemma respects_ofReader {reads : Nat} {operation : Reader → Except IoError α × Reader}
    (h : ∀ left s t, sim.related (left + reads) s t →
      (∃ error, (operation s.reader).1 = .error error ∧ sim.excused (.io error)) ∨
        (operation s.reader).1 = (operation t.reader).1 ∧
          sim.related left { s with reader := (operation s.reader).2 }
            { t with reader := (operation t.reader).2 }) :
    sim.Respects reads (Inspection.ofReader operation) := by
  intro left s t hst
  rcases h left s t hst with ⟨error, herror, hexcused⟩ | ⟨hresult, hrelated⟩
  · refine .inr ⟨⟨.io error, ?_, hexcused⟩, List.prefix_rfl⟩
    simp only [Inspection.ofReader, herror]
    rfl
  · refine .inl ⟨?_, rfl, hrelated⟩
    simp only [Inspection.ofReader, hresult]

/-- A positioned read costs one move of the cursor. -/
lemma respects_readAt
    (hseek : ∀ position, sim.Respects 1 (Inspection.ofReader fun reader => reader.seek position))
    (hgather : ∀ wanted, sim.Respects 0 (Inspection.ofReader fun reader => reader.gather wanted))
    (part : Part) (extent : Extent) : sim.Respects 1 (Inspection.readAt part extent) := by
  apply respects_length.free_bind
  intro length
  apply (respects_ofExcept _).free_bind
  intro _
  apply (hseek _).bind_free
  intro _
  apply (hgather _).bind_free
  intro bytes
  by_cases hlength : bytes.length = extent.size.toNat
  · rw [if_pos hlength]
    exact respects_pure bytes
  · rw [if_neg hlength]
    exact respects_ofExcept _

/-! ### The stages of an analysis -/

section Stages

variable (hread : ∀ part extent, sim.Respects 1 (Inspection.readAt part extent))

include hread

theorem respects_readHeader : sim.Respects 1 FileHeader.read := by
  apply (hread _ _).bind_free
  intro bytes
  apply (respects_ofExcept _).bind_free
  intro header
  apply respects_length.bind_free
  intro length
  apply (respects_ofExcept _).bind_free
  intro _
  apply (respects_note _).bind_free
  intro _
  exact respects_pure header

lemma respects_readRecords (header : FileHeader) (order : ByteOrder) :
    sim.Respects 1 (SectionTable.readRecords header order) := by
  apply (hread _ _).bind_free
  intro bytes
  apply (respects_ofExcept _).bind_free
  rintro ⟨sections, _⟩
  apply respects_length.bind_free
  intro length
  apply (respects_note _).bind_free
  intro _
  apply (respects_ofExcept _).bind_free
  intro _
  apply (respects_note _).bind_free
  intro _
  exact respects_pure sections

theorem respects_readSections (header : FileHeader) :
    sim.Respects 1 (SectionTable.read header) := by
  by_cases hnum : header.shnum = 0
  · rw [SectionTable.read_of_shnum_eq_zero hnum]
    exact ((respects_note _).bind_free fun _ => respects_pure _).of_le (Nat.zero_le 1)
  by_cases hsize : header.shentsize = SectionTable.entrySize
  · cases horder : header.byteOrder? with
    | none =>
      rw [SectionTable.read_of_byteOrder?_eq_none hnum hsize horder]
      exact (respects_ofExcept _).of_le (Nat.zero_le 1)
    | some order =>
      rw [SectionTable.read_of_byteOrder?_eq_some hnum hsize horder]
      exact respects_readRecords hread header order
  · rw [SectionTable.read_of_shentsize_ne hnum hsize]
    exact (respects_ofExcept _).of_le (Nat.zero_le 1)

theorem respects_loadNames (header : FileHeader) (sections : List SectionHeader) :
    sim.Respects 1 (NameTable.load header sections) := by
  cases hsh : sections[header.shstrndx.toNat]? with
  | none =>
    rw [NameTable.load_of_getElem?_eq_none hsh]
    exact (respects_ofExcept _).of_le (Nat.zero_le 1)
  | some sh =>
    rw [NameTable.load_of_getElem?_eq_some hsh]
    apply (hread _ _).bind_free
    intro bytes
    apply (respects_note _).bind_free
    intro _
    exact respects_pure _

/-- Whatever relates two sources across a positioned read relates the two analyses. -/
theorem respects_inspect (path : String) : sim.Respects 3 (Analysis.inspect path) := by
  apply respects_length.free_bind
  intro length
  apply (respects_note _).free_bind
  intro _
  refine (respects_readHeader hread).bind (n := 2) fun header => ?_
  refine (respects_readSections hread header).bind (n := 1) fun sectionHeaders => ?_
  apply (respects_loadNames hread header sectionHeaders).bind_free
  intro names
  apply (respects_note _).bind_free
  intro _
  exact respects_pure _

end Stages

end Simulation

end ElfInspect
