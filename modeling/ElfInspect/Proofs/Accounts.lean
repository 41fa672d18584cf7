import ElfInspect.Proofs.Serving

/-!
# Comparing accounts

Two files are set beside each other and their accounts are compared stage by stage. A read is
the same in both if the files have the same recorded length and the same bytes in the extent,
which matters only where the extent fits. Accounts agree if they log the same and stop at the
same fault or give values that are related in a given way; what holds of the values of one
stage may be used for the next.
-/

namespace ElfInspect

namespace Account

variable {α β γ δ : Type}

lemma eq_of_parts {first second : Account α} (hresult : first.result = second.result)
    (hlog : first.log = second.log) : first = second := by
  obtain ⟨result, log⟩ := first
  obtain ⟨result', log'⟩ := second
  simp only at hresult hlog
  rw [hresult, hlog]

/-- The accounts log the same, and stop at the same fault or give related values. -/
def Agree (related : α → β → Prop) (first : Account α) (second : Account β) : Prop :=
  first.log = second.log ∧
    ((∃ fault, first.result = .error fault ∧ second.result = .error fault) ∨
      ∃ x y, first.result = .ok x ∧ second.result = .ok y ∧ related x y)

lemma agree_of_eq {first second : Account α} (h : first = second) :
    Agree (fun x y => x = y ∧ first.result = .ok x) first second := by
  subst h
  refine ⟨rfl, ?_⟩
  cases hresult : first.result with
  | error fault => exact .inl ⟨fault, rfl, rfl⟩
  | ok x => exact .inr ⟨x, x, rfl, rfl, rfl, rfl⟩

lemma agree_pure {related : α → β → Prop} {x : α} {y : β} (h : related x y) :
    Agree related (pure x) (pure y) :=
  ⟨rfl, .inr ⟨x, y, rfl, rfl, h⟩⟩

lemma Agree.imp {related related' : α → β → Prop} {first : Account α} {second : Account β}
    (h : Agree related first second)
    (himp : ∀ x y, first.result = .ok x → related x y → related' x y) :
    Agree related' first second := by
  obtain ⟨hlog, hfault | ⟨x, y, hx, hy, hxy⟩⟩ := h
  · exact ⟨hlog, .inl hfault⟩
  · exact ⟨hlog, .inr ⟨x, y, hx, hy, himp x y hx hxy⟩⟩

lemma Agree.eq {first second : Account α} (h : Agree (fun x y => x = y) first second) :
    first = second := by
  obtain ⟨hlog, ⟨fault, hfirst, hsecond⟩ | ⟨x, y, hx, hy, rfl⟩⟩ := h
  · exact eq_of_parts (hfirst.trans hsecond.symm) hlog
  · exact eq_of_parts (hx.trans hy.symm) hlog

theorem Agree.bind {related : α → β → Prop} {related' : γ → δ → Prop} {first : Account α}
    {second : Account β} {next : α → Account γ} {next' : β → Account δ}
    (h : Agree related first second)
    (hnext : ∀ x y, first.result = .ok x → related x y → Agree related' (next x) (next' y)) :
    Agree related' (first >>= next) (second >>= next') := by
  obtain ⟨hlog, ⟨fault, hfirst, hsecond⟩ | ⟨x, y, hx, hy, hxy⟩⟩ := h
  · rw [bind_of_error hfirst, bind_of_error hsecond]
    exact ⟨hlog, .inl ⟨fault, rfl, rfl⟩⟩
  · obtain ⟨hmore, hresult⟩ := hnext x y hx hxy
    rw [bind_of_ok hx, bind_of_ok hy]
    exact ⟨by rw [hlog, hmore], hresult⟩

lemma Agree.after {related : β → γ → Prop} (first : Account α) {next : α → Account β}
    {next' : α → Account γ} (h : ∀ x, Agree related (next x) (next' x)) :
    Agree related (first >>= next) (first >>= next') := by
  apply (agree_of_eq rfl).bind
  rintro x _ - ⟨rfl, -⟩
  exact h x

end Account

namespace File

open Account

variable {first second : File}

lemma log_read (file : File) (part : Part) (extent : Extent) :
    (file.read part extent).log = [] := by
  unfold read
  cases hcheck : extent.check part file.length with
  | error fault => rfl
  | ok _ =>
    by_cases hlength :
        (slice file.content extent.offset.toNat extent.size.toNat).length = extent.size.toNat
    · simp only [if_pos hlength]
      rfl
    · simp only [if_neg hlength]
      rfl

lemma read_of_le {file : File} {part : Part} {extent : Extent}
    (hlength : extent.offset.toNat + extent.size.toNat ≤ file.length.toNat)
    (hcontent : extent.offset.toNat + extent.size.toNat ≤ file.content.length) :
    file.read part extent = pure (slice file.content extent.offset.toNat extent.size.toNat) := by
  have hcheck : extent.check part file.length = .ok () := Extent.check_eq_ok_iff.mpr hlength
  have hslice := length_slice hcontent
  rw [File.read, hcheck]
  simp only [if_pos hslice]
  rfl

/-- What a read that succeeds has found. -/
lemma of_result_read {file : File} {part : Part} {extent : Extent} {bytes : Bytes}
    (h : (file.read part extent).result = .ok bytes) :
    extent.offset.toNat + extent.size.toNat ≤ file.length.toNat ∧
      bytes = slice file.content extent.offset.toNat extent.size.toNat ∧
      bytes.length = extent.size.toNat := by
  rw [File.read, result_bind] at h
  obtain ⟨_, hcheck, hbytes⟩ := exists_of_bind_eq_ok h
  refine ⟨Extent.check_eq_ok_iff.mp hcheck, ?_⟩
  by_cases hlength : (slice file.content extent.offset.toNat extent.size.toNat).length =
      extent.size.toNat
  · simp only [if_pos hlength] at hbytes
    cases hbytes
    exact ⟨rfl, hlength⟩
  · simp only [if_neg hlength] at hbytes
    cases hbytes

lemma names_congr {header : FileHeader} {sections : List SectionHeader}
    (hread : ∀ sh, sections[header.shstrndx.toNat]? = some sh →
      first.read .nameTable sh.extent = second.read .nameTable sh.extent) :
    first.names header sections = second.names header sections := by
  rw [File.names, File.names]
  cases hsh : sections[header.shstrndx.toNat]? with
  | none => rfl
  | some sh => simp only [hread sh hsh]

section Congruence

variable (hlength : first.length = second.length)

include hlength

/-- What stands outside the extent does not matter to a read, nor what stands in an extent that
does not fit. -/
theorem read_congr {part : Part} {extent : Extent}
    (h : extent.offset.toNat + extent.size.toNat ≤ first.length.toNat →
      slice first.content extent.offset.toNat extent.size.toNat =
        slice second.content extent.offset.toNat extent.size.toNat) :
    first.read part extent = second.read part extent := by
  rw [read, read, ← hlength]
  cases hcheck : extent.check part first.length with
  | error fault => rfl
  | ok _ => rw [h (Extent.check_eq_ok_iff.mp hcheck)]

lemma header_congr
    (hread : first.read .fileHeader ⟨0, FileHeader.byteSize.toUInt64⟩ =
      second.read .fileHeader ⟨0, FileHeader.byteSize.toUInt64⟩) :
    first.header = second.header := by
  rw [File.header, File.header, hread, hlength]

lemma sections_congr {header : FileHeader}
    (hread : first.read .sectionHeaderTable (SectionTable.extent header) =
      second.read .sectionHeaderTable (SectionTable.extent header)) :
    first.sections header = second.sections header := by
  have hrecords : ∀ order, first.records header order = second.records header order := by
    intro order
    rw [File.records, File.records, hread, hlength]
  rw [File.sections, File.sections]
  simp only [hrecords]

/-- Where the stages agree, the analyses say the same of the sections, each with its own
header. -/
theorem analysis_agree {header header' : FileHeader} {sections : List SectionHeader}
    (hheader : Agree (fun x y => x = header ∧ y = header') first.header second.header)
    (hsections : first.header.result = .ok header →
      Agree (fun x y => x = sections ∧ y = sections) (first.sections header)
        (second.sections header'))
    (hnames : first.header.result = .ok header → (first.sections header).result = .ok sections →
      first.names header sections = second.names header' sections) (path : String) :
    Agree
      (fun x y => ∃ rows,
        x = { path, header, sectionHeaders := sections, sections := rows } ∧
          y = { path, header := header', sectionHeaders := sections, sections := rows })
      (first.analysis path) (second.analysis path) := by
  rw [analysis, analysis, hlength]
  apply Agree.after
  intro _
  apply hheader.bind
  rintro _ _ hread ⟨rfl, rfl⟩
  apply (hsections hread).bind
  rintro _ _ hlisted ⟨rfl, rfl⟩
  rw [hnames hread hlisted]
  apply Agree.after
  intro names
  apply Agree.after
  intro _
  exact agree_pure ⟨_, rfl, rfl⟩

end Congruence

end File

end ElfInspect
