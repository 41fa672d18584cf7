import ElfInspect.Analysis
import ElfInspect.Proofs.Layout
import ElfInspect.Proofs.Reading

/-!
# Readers without faults

A source that never fails shows nothing of itself but the bytes that come and the length that
was recorded. What an inspection comes to on it, its account, is a function of these two,
wherever the cursor stands and however few bytes come at a time. The account of an analysis is
put together from those of its steps, and no reader occurs in it any more.
-/

namespace ElfInspect

/-- What is seen of an inspection: its outcome without the source. -/
structure Account (α : Type) where
  result : Except Fault α
  log : List Event

namespace Account

variable {α β : Type}

instance : Monad Account where
  pure value := ⟨.ok value, []⟩
  bind first next :=
    match first with
    | ⟨.ok value, log⟩ => ⟨(next value).result, log ++ (next value).log⟩
    | ⟨.error fault, log⟩ => ⟨.error fault, log⟩

def note (events : List Event) : Account Unit :=
  ⟨.ok (), events⟩

def ofExcept (result : Except Fault α) : Account α :=
  ⟨result, []⟩

lemma bind_of_ok {first : Account α} {value : α} (h : first.result = .ok value)
    (next : α → Account β) :
    first >>= next = ⟨(next value).result, first.log ++ (next value).log⟩ := by
  obtain ⟨result, log⟩ := first
  simp only at h
  rw [h]
  rfl

lemma bind_of_error {first : Account α} {fault : Fault} (h : first.result = .error fault)
    (next : α → Account β) : first >>= next = ⟨.error fault, first.log⟩ := by
  obtain ⟨result, log⟩ := first
  simp only at h
  rw [h]
  rfl

lemma result_bind (first : Account α) (next : α → Account β) :
    (first >>= next).result = first.result >>= fun value => (next value).result := by
  cases h : first.result with
  | error fault =>
    rw [bind_of_error h]
    rfl
  | ok value =>
    rw [bind_of_ok h]
    rfl

end Account

/-- What can be seen of a source that never fails. -/
structure File where
  content : Bytes
  length : UInt64

/-- A source that gives the bytes of a file and never fails. -/
structure Source.Serves (source : Source) (file : File) : Prop where
  readFault : source.reader.readFault? = none
  seekFault : source.reader.seekFault? = none
  content : (if source.reader.Starved then [] else source.reader.content) = file.content
  length : source.length = file.length

/-- On every source of the file the inspection comes to this account, and the source goes on
to serve the file. -/
def Inspection.Yields {α : Type} (inspection : Inspection α) (file : File)
    (account : Account α) : Prop :=
  ∀ source, source.Serves file →
    ∃ rest, inspection source = ⟨account.result, account.log, rest⟩ ∧ rest.Serves file

/-! ### Accounts of the stages -/

namespace File

open Account

/-- The bytes of an extent, or the fault that stands for them. -/
def read (file : File) (part : Part) (extent : Extent) : Account Bytes := do
  ofExcept (extent.check part file.length)
  let bytes := slice file.content extent.offset.toNat extent.size.toNat
  if bytes.length = extent.size.toNat then
    return bytes
  else
    ofExcept (.error
      (.format (.truncated part extent.offset extent.size bytes.length.toUInt64)))

def header (file : File) : Account FileHeader := do
  let bytes ← file.read .fileHeader ⟨0, FileHeader.byteSize.toUInt64⟩
  let header ← ofExcept (FileHeader.parse bytes)
  ofExcept (header.checkTables file.length)
  note [header.event]
  return header

def records (file : File) (header : FileHeader) (order : ByteOrder) :
    Account (List SectionHeader) := do
  let bytes ← file.read .sectionHeaderTable (SectionTable.extent header)
  let records := (SectionHeader.decode order).many header.shnum.toNat bytes
  let (sections, _) ← ofExcept (records.mapError Fault.io)
  note (SectionTable.warnings file.length sections)
  ofExcept (SectionTable.check file.length sections)
  note [.sectionsRead sections.length]
  return sections

def sections (file : File) (header : FileHeader) : Account (List SectionHeader) :=
  if header.shnum = 0 then do
    note [.noSections]
    return []
  else if header.shentsize ≠ SectionTable.entrySize then
    ofExcept (.error (.format (.badEntrySize SectionTable.entrySize header.shentsize)))
  else match header.byteOrder? with
    | none => ofExcept (.error (.format (.unsupportedEncoding header.encoding)))
    | some order => file.records header order

def names (file : File) (header : FileHeader) (sections : List SectionHeader) :
    Account NameTable :=
  match sections[header.shstrndx.toNat]? with
  | none => ofExcept
    (.error (.format (.badReference .nameTable header.shstrndx.toNat sections.length)))
  | some sh => do
    let bytes ← file.read .nameTable sh.extent
    note [.nameTableLoaded header.shstrndx.toNat bytes.length]
    return { bytes }

def analysis (file : File) (path : String) : Account Analysis := do
  note [.analyzing file.length]
  let header ← file.header
  let sectionHeaders ← file.sections header
  let names ← file.names header sectionHeaders
  note (SectionSummary.warnings names sectionHeaders)
  return { path, header, sectionHeaders, sections := SectionSummary.ofHeaders names sectionHeaders }

section Cases

variable {file : File} {header : FileHeader}

lemma sections_of_shnum_eq_zero (h : header.shnum = 0) :
    file.sections header = (do note [.noSections]; return []) := by
  rw [sections, if_pos h]

lemma sections_of_shentsize_ne (hnum : header.shnum ≠ 0)
    (h : header.shentsize ≠ SectionTable.entrySize) :
    file.sections header = Account.ofExcept
      (.error (.format (.badEntrySize SectionTable.entrySize header.shentsize))) := by
  rw [sections, if_neg hnum, if_pos h]

lemma sections_of_byteOrder?_eq_none (hnum : header.shnum ≠ 0)
    (hsize : header.shentsize = SectionTable.entrySize) (h : header.byteOrder? = none) :
    file.sections header = Account.ofExcept
      (.error (.format (.unsupportedEncoding header.encoding))) := by
  rw [sections, if_neg hnum, if_neg (not_not_intro hsize), h]

lemma sections_of_byteOrder?_eq_some {order : ByteOrder} (hnum : header.shnum ≠ 0)
    (hsize : header.shentsize = SectionTable.entrySize) (h : header.byteOrder? = some order) :
    file.sections header = file.records header order := by
  rw [sections, if_neg hnum, if_neg (not_not_intro hsize), h]

end Cases

end File

namespace Inspection

variable {α β : Type} {file : File}

lemma Yields.result_eq {inspection : Inspection α} {account : Account α} {source : Source}
    (h : inspection.Yields file account) (hserves : source.Serves file) :
    (inspection source).result = account.result := by
  obtain ⟨rest, hrest, -⟩ := h source hserves
  rw [hrest]

theorem Yields.bind {first : Inspection α} {next : α → Inspection β} {account : Account α}
    {continued : α → Account β} (hfirst : first.Yields file account)
    (hnext : ∀ value, (next value).Yields file (continued value)) :
    (first >>= next).Yields file (account >>= continued) := by
  intro source hsource
  obtain ⟨middle, hmiddle, hserves⟩ := hfirst source hsource
  cases hresult : account.result with
  | error fault =>
    rw [hresult] at hmiddle
    rw [Account.bind_of_error hresult]
    exact ⟨middle, bind_apply_of_error hmiddle, hserves⟩
  | ok value =>
    rw [hresult] at hmiddle
    obtain ⟨rest, hrest, hserves'⟩ := hnext value middle hserves
    refine ⟨rest, ?_, hserves'⟩
    rw [Account.bind_of_ok hresult, bind_apply_of_ok hmiddle, hrest]

lemma yields_pure (value : α) : (pure value : Inspection α).Yields file (pure value) :=
  fun source hsource => ⟨source, rfl, hsource⟩

lemma yields_note (events : List Event) : (note events).Yields file (Account.note events) :=
  fun source hsource => ⟨source, rfl, hsource⟩

lemma yields_ofExcept (result : Except Fault α) :
    (ofExcept result).Yields file (Account.ofExcept result) :=
  fun source hsource => ⟨source, rfl, hsource⟩

lemma yields_length_bind {next : UInt64 → Inspection β} {account : Account β}
    (h : (next file.length).Yields file account) : (length >>= next).Yields file account := by
  intro source hsource
  obtain ⟨rest, hrest, hserves⟩ := h source hsource
  refine ⟨rest, ?_, hserves⟩
  have hlength : length source = ⟨.ok file.length, [], source⟩ := by
    rw [length, hsource.length]
  rw [bind_apply_of_ok hlength, hrest]
  rfl

lemma yields_seek (position : Nat) (source : Source) (h : source.Serves file) :
    ∃ rest, ofReader (fun reader => reader.seek position) source = ⟨.ok (), [], rest⟩ ∧
      rest.Serves file ∧ rest.reader.position = position := by
  have hne : source.reader.seekFault? ≠ some (source.reader.seeks + 1) := by
    rw [h.seekFault]
    exact nofun
  let moved := { source.reader with
    seeks := source.reader.seeks + 1, position, ahead := source.reader.content.drop position,
    ahead_eq := rfl }
  refine ⟨{ source with reader := moved }, ?_,
    ⟨h.readFault, h.seekFault, h.content, h.length⟩, rfl⟩
  simp only [ofReader, Reader.seek_of_ne hne]
  rfl

lemma yields_gather (wanted : Nat) (source : Source) (h : source.Serves file) :
    ∃ rest, ofReader (fun reader => reader.gather wanted) source =
      ⟨.ok (slice file.content source.reader.position wanted), [], rest⟩ ∧ rest.Serves file := by
  have hnot : ∀ fault, source.reader.readFault? = some fault →
      ¬source.reader.Meets fault wanted := by
    intro fault hfault
    rw [h.readFault] at hfault
    cases hfault
  have hdelivery : source.reader.delivery wanted =
      slice file.content source.reader.position wanted := by
    rw [← h.content, Reader.delivery, slice]
    by_cases hstarved : source.reader.Starved
    · rw [if_pos hstarved, if_pos hstarved, List.drop_nil, List.take_nil]
    · rw [if_neg hstarved, if_neg hstarved, source.reader.ahead_eq]
  let advanced := source.reader.advance (source.reader.delivery wanted).length
  refine ⟨{ source with reader := advanced }, ?_,
    ⟨h.readFault, h.seekFault, h.content, h.length⟩⟩
  rw [← hdelivery]
  simp only [ofReader, Reader.gather_of_not_meets hnot]
  rfl

lemma yields_seek_gather {position wanted : Nat} {next : Bytes → Inspection β}
    {account : Account β} (h : (next (slice file.content position wanted)).Yields file account) :
    (ofReader (fun reader => reader.seek position) >>= fun _ =>
      ofReader (fun reader => reader.gather wanted) >>= next).Yields file account := by
  intro source hsource
  obtain ⟨middle, hmiddle, hserves, hposition⟩ := yields_seek position source hsource
  obtain ⟨stop, hstop, hserves'⟩ := yields_gather wanted middle hserves
  rw [hposition] at hstop
  obtain ⟨rest, hrest, hserves''⟩ := h stop hserves'
  refine ⟨rest, ?_, hserves''⟩
  rw [bind_apply_of_ok hmiddle, bind_apply_of_ok hstop, hrest]
  rfl

/-- The positioned read gives what stands in the file, whatever was read before. -/
theorem yields_readAt (part : Part) (extent : Extent) :
    (readAt part extent).Yields file (file.read part extent) := by
  rw [File.read, ← checkExtent_eq]
  apply yields_length_bind
  apply (yields_ofExcept _).bind
  intro _
  apply yields_seek_gather
  by_cases hlength :
      (slice file.content extent.offset.toNat extent.size.toNat).length = extent.size.toNat
  · simp only [if_pos hlength]
    exact yields_pure _
  · simp only [if_neg hlength]
    exact yields_ofExcept _

theorem yields_readHeader : FileHeader.read.Yields file file.header := by
  apply (yields_readAt _ _).bind
  intro bytes
  apply (yields_ofExcept _).bind
  intro header
  apply yields_length_bind
  apply (yields_ofExcept _).bind
  intro _
  exact (yields_note _).bind fun _ => yields_pure header

lemma yields_readRecords (header : FileHeader) (order : ByteOrder) :
    (SectionTable.readRecords header order).Yields file (file.records header order) := by
  apply (yields_readAt _ _).bind
  intro bytes
  apply (yields_ofExcept _).bind
  rintro ⟨sections, _⟩
  apply yields_length_bind
  apply (yields_note _).bind
  intro _
  apply (yields_ofExcept _).bind
  intro _
  exact (yields_note _).bind fun _ => yields_pure sections

theorem yields_readSections (header : FileHeader) :
    (SectionTable.read header).Yields file (file.sections header) := by
  by_cases hnum : header.shnum = 0
  · rw [SectionTable.read_of_shnum_eq_zero hnum, File.sections_of_shnum_eq_zero hnum]
    exact (yields_note _).bind fun _ => yields_pure []
  by_cases hsize : header.shentsize = SectionTable.entrySize
  · cases horder : header.byteOrder? with
    | none =>
      rw [SectionTable.read_of_byteOrder?_eq_none hnum hsize horder,
        File.sections_of_byteOrder?_eq_none hnum hsize horder]
      exact yields_ofExcept _
    | some order =>
      rw [SectionTable.read_of_byteOrder?_eq_some hnum hsize horder,
        File.sections_of_byteOrder?_eq_some hnum hsize horder]
      exact yields_readRecords header order
  · rw [SectionTable.read_of_shentsize_ne hnum hsize, File.sections_of_shentsize_ne hnum hsize]
    exact yields_ofExcept _

theorem yields_loadNames (header : FileHeader) (sections : List SectionHeader) :
    (NameTable.load header sections).Yields file (file.names header sections) := by
  unfold File.names
  cases hsh : sections[header.shstrndx.toNat]? with
  | none =>
    rw [NameTable.load_of_getElem?_eq_none hsh]
    exact yields_ofExcept _
  | some sh =>
    rw [NameTable.load_of_getElem?_eq_some hsh]
    apply (yields_readAt _ _).bind
    intro bytes
    exact (yields_note _).bind fun _ => yields_pure _

theorem yields_inspect (path : String) :
    (Analysis.inspect path).Yields file (file.analysis path) := by
  apply yields_length_bind
  apply (yields_note _).bind
  intro _
  apply yields_readHeader.bind
  intro header
  apply (yields_readSections header).bind
  intro sectionHeaders
  apply (yields_loadNames header sectionHeaders).bind
  intro names
  exact (yields_note _).bind fun _ => yields_pure _

end Inspection

/-! ### Taking up a reader without faults -/

/-- The file that a reader would show if it had no faults. -/
def Reader.file (reader : Reader) : File where
  content := if reader.Starved then [] else reader.content
  length := reader.reportedLength

/-- On a reader without faults an analysis is a function of the file that the reader shows. -/
theorem Analysis.ofReader_eq_account {reader : Reader} (hread : reader.readFault? = none)
    (hseek : reader.seekFault? = none) (path : String) :
    Analysis.ofReader reader path =
      ((reader.file.analysis path).result, (reader.file.analysis path).log) := by
  have hserves : Source.Serves { reader := reader.takenUp, length := reader.reportedLength }
      reader.file := ⟨hread, hseek, rfl, rfl⟩
  obtain ⟨rest, hrest, -⟩ := Inspection.yields_inspect path _ hserves
  rw [Analysis.ofReader, Source.ofReader_of_eq_none hseek]
  simp only [hrest]

end ElfInspect
