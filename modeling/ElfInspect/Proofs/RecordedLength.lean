import ElfInspect.Proofs.Acceptance
import ElfInspect.Proofs.Accounts
import ElfInspect.Proofs.Agreement
import ElfInspect.Proofs.FaultInjection
import ElfInspect.Proofs.Image

/-!
# Readers with a wrong length

What a reader reports as its length is all that an analysis knows of it. Two files of the same
recorded length are served side by side: as long as their reads give the same, so do the
analyses. A length that is too large is found out by the read that runs into the end of the
bytes, and a length that is too small hides the bytes behind it.
-/

namespace ElfInspect

lemma Reader.content_file (reader : Reader) :
    reader.file.content = [] ∨ reader.file.content = reader.content := by
  unfold Reader.file
  by_cases h : reader.Starved
  · exact .inl (if_pos h)
  · exact .inr (if_neg h)

namespace File

variable {first second : File} {part : Part} {extent : Extent} {bytes : Bytes}

def source (file : File) : Source where
  reader := { content := file.content, reportedLength := file.length }
  length := file.length

lemma serves_source (file : File) : file.source.Serves file :=
  ⟨rfl, rfl, rfl, rfl⟩

lemma fits_of_result_read (h : (first.read part extent).result = .ok bytes) :
    extent.offset.toNat + extent.size.toNat ≤ first.length.toNat ∧
      (extent.size.toNat = 0 ∨
        extent.offset.toNat + extent.size.toNat ≤ first.content.length) := by
  obtain ⟨hfits, rfl, hlength⟩ := of_result_read h
  refine ⟨hfits, ?_⟩
  -- The check knows the recorded length only; that bytes are missing shows afterwards.
  rw [slice, List.length_take, List.length_drop] at hlength
  omega

lemma read_eq_of_result_read (hlength : first.length = second.length)
    (htake : first.content.take (min first.content.length first.length.toNat) =
      second.content.take (min first.content.length first.length.toNat))
    (h : (first.read part extent).result = .ok bytes) :
    first.read part extent = second.read part extent := by
  apply read_congr hlength
  intro hfits
  rcases (fits_of_result_read h).2 with hempty | hcontent
  · rw [slice, slice, hempty, List.take_zero, List.take_zero]
  · exact slice_congr htake (by omega)

end File

namespace Simulation

/-- The sources serve two files of the same recorded length. -/
def serving (first second : File) (hlength : first.length = second.length)
    (excused : Fault → Prop) : Simulation where
  related _ s t := s.Serves first ∧ t.Serves second
  excused
  related_of_le _ h := h
  length_eq h := by rw [h.1.length, h.2.length, hlength]

theorem serving_readAt {first second : File} {hlength : first.length = second.length}
    {excused : Fault → Prop} {part : Part} {extent : Extent}
    (h : first.read part extent = second.read part extent ∨
      ∃ fault, (first.read part extent).result = .error fault ∧ excused fault) :
    (serving first second hlength excused).Respects 1 (Inspection.readAt part extent) := by
  rintro left s t ⟨hs, ht⟩
  obtain ⟨s', hsrun, hs'⟩ := Inspection.yields_readAt part extent s hs
  obtain ⟨t', htrun, ht'⟩ := Inspection.yields_readAt part extent t ht
  rw [hsrun, htrun]
  rcases h with heq | ⟨fault, hfault, hexcused⟩
  · left
    rw [heq]
    exact ⟨rfl, rfl, hs', ht'⟩
  · right
    rw [File.log_read]
    exact ⟨⟨fault, hfault, hexcused⟩, List.nil_prefix⟩

end Simulation

namespace File

variable {first second : File}

/-- If all reads agree but for those that end the first analysis, so do the analyses. -/
theorem analysis_eq_or_error (hlength : first.length = second.length) {excused : Fault → Prop}
    (hread : ∀ part extent, first.read part extent = second.read part extent ∨
      ∃ fault, (first.read part extent).result = .error fault ∧ excused fault)
    (path : String) :
    first.analysis path = second.analysis path ∨
      ∃ fault, (first.analysis path).result = .error fault ∧ excused fault := by
  have hrespects : (Simulation.serving first second hlength excused).Respects 3
      (Analysis.inspect path) :=
    Simulation.respects_inspect
      (fun part extent => Simulation.serving_readAt (hread part extent)) path
  have hmatch := hrespects 0 first.source second.source ⟨first.serves_source, second.serves_source⟩
  obtain ⟨s, hs, -⟩ := Inspection.yields_inspect path _ first.serves_source
  obtain ⟨t, ht, -⟩ := Inspection.yields_inspect path _ second.serves_source
  rw [hs, ht] at hmatch
  rcases hmatch with ⟨hresult, hlog, -⟩ | ⟨hexcused, -⟩
  · exact .inl (Account.eq_of_parts hresult hlog)
  · exact .inr hexcused

end File

namespace Analysis

section Readers

variable {reader other : Reader} {path : String}

lemma ofReader_eq_of_ok {analysis : Analysis} (hok : (ofReader reader path).1 = .ok analysis)
    (hother : other.Faithful) (hlength : other.content.length = reader.reportedLength.toNat)
    (htake : other.content.take (min reader.content.length reader.reportedLength.toNat) =
      reader.content.take (min reader.content.length reader.reportedLength.toNat)) :
    ofReader other path = ofReader reader path := by
  have hfaultless : ofReader reader path = ofReader reader.faultless path := by
    rcases ofReader_faultless reader path with heq | ⟨⟨error, herror⟩, -⟩
    · exact heq
    · rw [hok] at herror
      cases herror
  have hreported : reader.reportedLength = other.reportedLength :=
    UInt64.toNat_inj.mp (by rw [hother.length, hlength])
  have htake' : reader.faultless.file.content.take
        (min reader.faultless.file.content.length reader.reportedLength.toNat) =
      other.file.content.take
        (min reader.faultless.file.content.length reader.reportedLength.toNat) := by
    rw [Reader.file_of_faithful hother]
    rcases Reader.content_file reader.faultless with hnone | hall
    · rw [hnone, List.length_nil, Nat.zero_min, List.take_zero, List.take_zero]
    · rw [hall]
      exact htake.symm
  -- Any read may end the analysis here, since the analysis is known to succeed.
  have hread : ∀ part extent,
      reader.faultless.file.read part extent = other.file.read part extent ∨
        ∃ fault, (reader.faultless.file.read part extent).result = .error fault ∧ True := by
    intro part extent
    cases hresult : (reader.faultless.file.read part extent).result with
    | error fault => exact .inr ⟨fault, rfl, trivial⟩
    | ok bytes => exact .inl (File.read_eq_of_result_read hreported htake' hresult)
  have hfirst : ofReader reader.faultless path =
      ((reader.faultless.file.analysis path).result, (reader.faultless.file.analysis path).log) :=
    ofReader_eq_account rfl rfl path
  have hsecond := ofReader_eq_account hother.readFault hother.seekFault path
  rcases File.analysis_eq_or_error hreported hread path with heq | ⟨fault, hfault, -⟩
  · rw [hfaultless, hfirst, hsecond, heq]
  · rw [hfaultless, hfirst, hfault] at hok
    cases hok

lemma ofReader_eq_of_take (hle : reader.reportedLength.toNat ≤ reader.content.length)
    (hprogress : reader.chunk? ≠ some 0) (hreadFault : reader.readFault? = none)
    (hseekFault : reader.seekFault? = none) (hother : other.Faithful)
    (hcontent : other.content = reader.content.take reader.reportedLength.toNat) :
    ofReader other path = ofReader reader path := by
  have hreported : other.reportedLength = reader.reportedLength := by
    apply UInt64.toNat_inj.mp
    rw [hother.length, hcontent, List.length_take, Nat.min_eq_left hle]
  have hstarved : ¬reader.Starved := hprogress
  have hfile : reader.file = ⟨reader.content, reader.reportedLength⟩ := by
    rw [Reader.file, if_neg hstarved]
  -- No read is excused: what fits in the recorded length is there.
  have hread : ∀ part extent, other.file.read part extent = reader.file.read part extent ∨
      ∃ fault, (other.file.read part extent).result = .error fault ∧ False := by
    intro part extent
    left
    apply File.read_congr hreported
    intro hfits
    rw [Reader.file_of_faithful hother, hreported] at hfits
    rw [Reader.file_of_faithful hother, hfile, hcontent]
    exact slice_take hfits
  rw [ofReader_eq_account hother.readFault hother.seekFault,
    ofReader_eq_account hreadFault hseekFault]
  rcases File.analysis_eq_or_error hreported hread path with heq | ⟨fault, -, hfalse⟩
  · rw [heq]
  · exact hfalse.elim

end Readers

/-- A successful analysis is that of any file of the recorded length which has the bytes that
the reader has of it. A reader that has all of them shows nothing behind them. -/
theorem ofReader_eq_of_reportedLength (reader : Reader) (path : String) :
    (∀ analysis, (ofReader reader path).1 = .ok analysis → ∀ other : Reader, other.Faithful →
      other.content.length = reader.reportedLength.toNat →
      other.content.take (min reader.content.length reader.reportedLength.toNat) =
        reader.content.take (min reader.content.length reader.reportedLength.toNat) →
      ofReader other path = ofReader reader path) ∧
    (reader.reportedLength.toNat ≤ reader.content.length → reader.chunk? ≠ some 0 →
      reader.readFault? = none → reader.seekFault? = none → ∀ other : Reader, other.Faithful →
      other.content = reader.content.take reader.reportedLength.toNat →
      ofReader other path = ofReader reader path) := by
  constructor
  · intro analysis hok other hother hlength htake
    exact ofReader_eq_of_ok hok hother hlength htake
  · intro hle hprogress hread hseek other hother hcontent
    exact ofReader_eq_of_take hle hprogress hread hseek hother hcontent

/-- A length that is too large by 99 with a late fault, and one that is too small by three. -/
theorem ofReader_twoSections_misreported :
    let long : Reader :=
      { content := Image.twoSections.bytes, reportedLength := 300, chunk? := some 7,
        seekFault? := some 6 }
    let short : Reader :=
      { content := Image.twoSections.bytes ++ [1, 2, 3], reportedLength := 201, chunk? := some 7 }
    ∃ analysis, (ofReader long "a").1 = .ok analysis ∧
      ofReader (Reader.honest (Image.twoSections.bytes ++ List.replicate 99 0)) "a" =
        ofReader long "a" ∧
      ofReader (Reader.honest Image.twoSections.bytes) "a" = ofReader short "a" := by
  intro long short
  have hisOk : (long.withoutSeekFault.file.analysis "a").result.isOk = true := by decide +kernel
  cases hresult : (long.withoutSeekFault.file.analysis "a").result with
  | error fault =>
    rw [hresult] at hisOk
    cases hisOk
  | ok analysis =>
    have hlate : ∀ fault, long.seekFault? = some fault → long.seeks + 5 < fault := by
      intro fault hfault
      cases hfault
      decide
    have hok : (ofReader long "a").1 = .ok analysis := by
      rw [ofReader_withoutSeekFault "a" hlate, ofReader_eq_account rfl rfl, hresult]
    refine ⟨analysis, hok, ?_, ?_⟩
    · exact (ofReader_eq_of_reportedLength long "a").1 analysis hok _
        (Reader.faithful_honest (by decide +kernel)) (by decide +kernel) (by decide +kernel)
    · exact (ofReader_eq_of_reportedLength short "a").2 (by decide +kernel) nofun rfl rfl _
        (Reader.faithful_honest (by decide +kernel)) (by decide +kernel)

end Analysis

end ElfInspect
