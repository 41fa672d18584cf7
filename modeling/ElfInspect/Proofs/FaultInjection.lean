import ElfInspect.Proofs.Drafts
import ElfInspect.Proofs.Simulation

/-!
# Faults of the reader

A reader that fails somewhere is set beside the same reader without its faults. Up to the
first fault that strikes nothing tells the two analyses apart, and a fault that strikes ends
the analysis at once: the outcome is that of the good reader, or an I/O error with the log as
far as it had come. A move of the cursor that an analysis never makes cannot fail.
-/

namespace ElfInspect

namespace Reader

/-- The same reader with moves of the cursor that never fail. -/
def withoutSeekFault (reader : Reader) : Reader :=
  { reader with seekFault? := none }

lemma gather_withoutSeekFault (reader : Reader) (wanted : Nat) :
    reader.withoutSeekFault.gather wanted =
      ((reader.gather wanted).1, (reader.gather wanted).2.withoutSeekFault) := by
  rcases reader.gather_cases wanted with ⟨fault, hfault, hmeets⟩ | h
  · have hfault' : reader.withoutSeekFault.readFault? = some fault := hfault
    rw [gather_of_meets hfault hmeets, gather_of_meets hfault' hmeets]
    rfl
  · have h' : ∀ fault, reader.withoutSeekFault.readFault? = some fault →
        ¬reader.withoutSeekFault.Meets fault wanted := h
    rw [gather_of_not_meets h, gather_of_not_meets h']
    rfl

/-- The faultless reader gathers the same, unless the fault is met. -/
lemma gather_faultless (reader : Reader) (wanted : Nat) :
    (reader.gather wanted).1 = .error reader.readError ∨
      reader.faultless.gather wanted =
        ((reader.gather wanted).1, (reader.gather wanted).2.faultless) := by
  rcases reader.gather_cases wanted with ⟨fault, hfault, hmeets⟩ | h
  · left
    rw [gather_of_meets hfault hmeets]
  · right
    have h' : ∀ fault, reader.faultless.readFault? = some fault →
        ¬reader.faultless.Meets fault wanted := by
      intro fault hfault
      cases hfault
    rw [gather_of_not_meets h, gather_of_not_meets h']
    rfl

end Reader

namespace Simulation

/-- The second source is the first one without its faults. -/
def faultRemoval : Simulation where
  related _ s t := t = { s with reader := s.reader.faultless }
  excused fault := ∃ error, fault = .io error
  related_of_le _ h := h
  length_eq h := by rw [h]

theorem faultRemoval_readAt (part : Part) (extent : Extent) :
    faultRemoval.Respects 1 (Inspection.readAt part extent) := by
  apply respects_readAt
  · intro position
    apply respects_ofReader
    intro left s t hst
    have hreader : t.reader = s.reader.faultless := by rw [hst]
    by_cases h : s.reader.seekFault? = some (s.reader.seeks + 1)
    · left
      rw [Reader.seek_of_eq h]
      exact ⟨s.reader.seekError, rfl, _, rfl⟩
    · right
      have h' : s.reader.faultless.seekFault? ≠ some (s.reader.faultless.seeks + 1) := by
        intro hnone
        cases hnone
      rw [hreader, Reader.seek_of_ne h, Reader.seek_of_ne h']
      refine ⟨rfl, ?_⟩
      rw [hst]
      rfl
  · intro wanted
    apply respects_ofReader
    intro left s t hst
    have hreader : t.reader = s.reader.faultless := by rw [hst]
    rcases Reader.gather_faultless s.reader wanted with herror | hgather
    · left
      exact ⟨s.reader.readError, herror, _, rfl⟩
    · right
      rw [hreader, hgather]
      refine ⟨rfl, ?_⟩
      rw [hst]
      rfl

/-- The second source is the first one without its seek fault, which lies beyond the moves
that are still allowed for. -/
def lateSeekFault : Simulation where
  related moves s t := t = { s with reader := s.reader.withoutSeekFault } ∧
    ∀ fault, s.reader.seekFault? = some fault → s.reader.seeks + moves < fault
  excused _ := False
  related_of_le hle h := ⟨h.1, fun fault hfault => by have := h.2 fault hfault; omega⟩
  length_eq h := by rw [h.1]

theorem lateSeekFault_readAt (part : Part) (extent : Extent) :
    lateSeekFault.Respects 1 (Inspection.readAt part extent) := by
  apply respects_readAt
  · intro position
    apply respects_ofReader
    rintro left s t ⟨hst, hlate⟩
    right
    have hreader : t.reader = s.reader.withoutSeekFault := by rw [hst]
    have h : s.reader.seekFault? ≠ some (s.reader.seeks + 1) := by
      intro hfault
      have hlt := hlate _ hfault
      omega
    have h' : s.reader.withoutSeekFault.seekFault? ≠
        some (s.reader.withoutSeekFault.seeks + 1) := by
      intro hnone
      cases hnone
    rw [hreader, Reader.seek_of_ne h, Reader.seek_of_ne h']
    refine ⟨rfl, by rw [hst]; rfl, ?_⟩
    intro fault hfault
    have hlt := hlate fault hfault
    simp only
    omega
  · intro wanted
    apply respects_ofReader
    rintro left s t ⟨hst, hlate⟩
    right
    have hreader : t.reader = s.reader.withoutSeekFault := by rw [hst]
    rw [hreader, Reader.gather_withoutSeekFault]
    refine ⟨rfl, by rw [hst], ?_⟩
    obtain ⟨result, count, hgather⟩ := s.reader.exists_gather_eq wanted
    rw [hgather]
    exact hlate

/-- One source, which has made so many moves that those still allowed for reach a bound. -/
def moveBound (bound : Nat) : Simulation where
  related moves s t := s = t ∧ s.reader.seeks + moves ≤ bound
  excused _ := False
  related_of_le hle h := ⟨h.1, by have := h.2; omega⟩
  length_eq h := by rw [h.1]

theorem moveBound_readAt (bound : Nat) (part : Part) (extent : Extent) :
    (moveBound bound).Respects 1 (Inspection.readAt part extent) := by
  apply respects_readAt
  · intro position
    apply respects_ofReader
    rintro left s t ⟨hst, hle⟩
    right
    subst hst
    have hseeks := s.reader.seeks_seek position
    refine ⟨rfl, rfl, ?_⟩
    simp only
    omega
  · intro wanted
    apply respects_ofReader
    rintro left s t ⟨hst, hle⟩
    right
    subst hst
    obtain ⟨result, count, hgather⟩ := s.reader.exists_gather_eq wanted
    refine ⟨rfl, rfl, ?_⟩
    rw [hgather]
    exact hle

end Simulation

namespace Analysis

lemma ofReader_of_ok {reader : Reader} {source : Source} (h : Source.ofReader reader = .ok source)
    (path : String) :
    ofReader reader path = ((inspect path source).result, (inspect path source).log) := by
  rw [ofReader, h]

lemma ofReader_of_error {reader : Reader} {error : IoError}
    (h : Source.ofReader reader = .error error) (path : String) :
    ofReader reader path = (.error (.io error), []) := by
  rw [ofReader, h]

open Simulation

lemma ofReader_faultless (reader : Reader) (path : String) :
    ofReader reader path = ofReader reader.faultless path ∨
      (∃ error, (ofReader reader path).1 = .error (.io error)) ∧
        (ofReader reader path).2 <+: (ofReader reader.faultless path).2 := by
  by_cases h : reader.seekFault? = some (reader.seeks + 1) ∨
      reader.seekFault? = some (reader.seeks + 2)
  · right
    rw [ofReader_of_error (Source.ofReader_of_eq h)]
    exact ⟨⟨reader.seekError, rfl⟩, List.nil_prefix⟩
  · obtain ⟨hfirst, hsecond⟩ := not_or.mp h
    have hsource := Source.ofReader_of_ne hfirst hsecond
    have hsource' : Source.ofReader reader.faultless = .ok
        { reader := reader.faultless.takenUp, length := reader.faultless.reportedLength } :=
      Source.ofReader_of_eq_none rfl
    rw [ofReader_of_ok hsource, ofReader_of_ok hsource']
    have hrelated : faultRemoval.related (0 + 3)
        { reader := reader.takenUp, length := reader.reportedLength }
        { reader := reader.faultless.takenUp, length := reader.faultless.reportedLength } := rfl
    rcases respects_inspect faultRemoval_readAt path 0 _ _ hrelated with
      ⟨hresult, hlog, -⟩ | ⟨⟨fault, hresult, error, rfl⟩, hlog⟩
    · exact .inl (Prod.ext hresult hlog)
    · exact .inr ⟨⟨error, hresult⟩, hlog⟩

lemma ofReader_withoutSeekFault {reader : Reader} (path : String)
    (h : ∀ fault, reader.seekFault? = some fault → reader.seeks + 5 < fault) :
    ofReader reader path = ofReader reader.withoutSeekFault path := by
  have hsource : Source.ofReader reader = .ok
      { reader := reader.takenUp, length := reader.reportedLength } := by
    refine Source.ofReader_of_ne ?_ ?_
    · intro hfault
      have hlt := h _ hfault
      omega
    · intro hfault
      have hlt := h _ hfault
      omega
  have hsource' : Source.ofReader reader.withoutSeekFault = .ok
      { reader := reader.withoutSeekFault.takenUp
        length := reader.withoutSeekFault.reportedLength } :=
    Source.ofReader_of_eq_none rfl
  have hlate : lateSeekFault.related (0 + 3)
      { reader := reader.takenUp, length := reader.reportedLength }
      { reader := reader.withoutSeekFault.takenUp
        length := reader.withoutSeekFault.reportedLength } :=
    ⟨rfl, h⟩
  rcases respects_inspect lateSeekFault_readAt path 0 _ _ hlate with
    ⟨hresult, hlog, -⟩ | ⟨⟨fault, -, hexcused⟩, -⟩
  · rw [ofReader_of_ok hsource, ofReader_of_ok hsource']
    exact Prod.ext hresult hlog
  · exact hexcused.elim

lemma seeks_inspect_le {reader : Reader} {source : Source}
    (h : Source.ofReader reader = .ok source) (path : String) :
    (inspect path source).source.reader.seeks ≤ reader.seeks + 5 := by
  by_cases hfault : reader.seekFault? = some (reader.seeks + 1) ∨
      reader.seekFault? = some (reader.seeks + 2)
  · rw [Source.ofReader_of_eq hfault] at h
    cases h
  · obtain ⟨hfirst, hsecond⟩ := not_or.mp hfault
    rw [Source.ofReader_of_ne hfirst hsecond] at h
    cases h
    have hbound : (moveBound (reader.seeks + 5)).related (0 + 3)
        { reader := reader.takenUp, length := reader.reportedLength }
        { reader := reader.takenUp, length := reader.reportedLength } :=
      ⟨rfl, Nat.le_refl _⟩
    rcases respects_inspect (moveBound_readAt _) path 0 _ _ hbound with
      ⟨-, -, -, hle⟩ | ⟨⟨fault, -, hexcused⟩, -⟩
    · exact hle
    · exact hexcused.elim

/-- Faults of the reader never corrupt an analysis. It comes to what the faultless reader
gives, or to an I/O error with a part of that log; a success is always that of the faultless
reader. From the sixth move on a failing move is never made. -/
theorem ofReader_eq_faultless_or_io (reader : Reader) (path : String) :
    (ofReader reader path = ofReader reader.faultless path ∨
      (∃ error, (ofReader reader path).1 = .error (.io error)) ∧
        (ofReader reader path).2 <+: (ofReader reader.faultless path).2) ∧
    (∀ analysis, (ofReader reader path).1 = .ok analysis →
      ofReader reader path = ofReader reader.faultless path) ∧
    (∀ source, Source.ofReader reader = .ok source →
      (inspect path source).source.reader.seeks ≤ reader.seeks + 5) ∧
    ∀ number, reader.seeks + 6 ≤ number →
      ofReader { reader with seekFault? := some number } path =
        ofReader { reader with seekFault? := none } path := by
  have hfaultless := ofReader_faultless reader path
  refine ⟨hfaultless, ?_, fun source h => seeks_inspect_le h path, ?_⟩
  · intro analysis hok
    rcases hfaultless with heq | ⟨⟨error, herror⟩, -⟩
    · exact heq
    · rw [herror] at hok
      cases hok
  · intro number hnumber
    refine ofReader_withoutSeekFault path fun fault hfault => ?_
    cases hfault
    exact hnumber

/-- A file of two sections that is read in blocks of seven bytes: a read fault behind its last byte
and a failing sixth move are never met, and a failing fifth move ends the analysis. -/
theorem ofReader_late_faults :
    let late : Reader :=
      { content := Image.twoSections.bytes, reportedLength := 201, chunk? := some 7,
        readFault? := some 201, seekFault? := some 6 }
    let struck : Reader := { late with seekFault? := some 5 }
    (∃ analysis, (ofReader late "a").1 = .ok analysis ∧
      ofReader late "a" = ofReader late.faultless "a") ∧
    (∃ source, Source.ofReader late = .ok source ∧
      (inspect "a" source).source.reader.seeks ≤ 0 + 5 ∧
      (inspect "a" source).source.reader.seeks = 5) ∧
    (0 + 6 ≤ 6 ∧ ofReader late "a" = ofReader { late with seekFault? := none } "a") ∧
    (∃ error, (ofReader struck "a").1 = .error (.io error)) ∧
      (ofReader struck "a").2 <+: (ofReader struck.faultless "a").2 := by
  intro late struck
  obtain ⟨-, hok, hseeks, hnumber⟩ := ofReader_eq_faultless_or_io late "a"
  refine ⟨?_, ⟨_, rfl, hseeks _ rfl, by decide +kernel⟩, ⟨by decide, hnumber 6 (by decide)⟩, ?_⟩
  · have hisOk : (ofReader late "a").1.isOk = true := by decide +kernel
    cases hresult : (ofReader late "a").1 with
    | error fault =>
      rw [hresult] at hisOk
      cases hisOk
    | ok analysis => exact ⟨analysis, rfl, hok analysis hresult⟩
  · have hstruck : (ofReader struck "a").1.isOk = false := by decide +kernel
    have hfaultless : (ofReader struck.faultless "a").1.isOk = true := by decide +kernel
    refine (ofReader_eq_faultless_or_io struck "a").1.resolve_left ?_
    intro hsame
    rw [hsame, hfaultless] at hstruck
    cases hstruck

end Analysis

end ElfInspect
