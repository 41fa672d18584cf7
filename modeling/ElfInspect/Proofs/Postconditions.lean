import ElfInspect.Analysis
import ElfInspect.Proofs.RangeChecks

/-!
# What the stages ensure

For every source, whatever its reader does, each stage of an inspection is described by what is
known of a value that it gives and by the faults at which it can stop. A stage moves nothing but
the cursor, so the description holds however much was read before it, and the descriptions of
the stages put together make up that of the analysis.
-/

namespace ElfInspect

/-! ### Stages and conditions -/

/-- An outcome on a source: the value it has satisfies the one condition, or its fault the other. -/
structure Outcome.Obeys {α : Type} (outcome : Outcome α) (source : Source) (value : α → Prop)
    (fault : Fault → Prop) : Prop where
  later : source.Later outcome.source
  value : ∀ found, outcome.result = .ok found → value found
  fault : ∀ error, outcome.result = .error error → fault error

namespace Outcome

variable {α : Type} {source rest : Source} {value : α → Prop} {fault : Fault → Prop}
  {log : List Event}

/-- What was logged is no part of the conditions. -/
lemma Obeys.relog {outcome : Outcome α} (h : outcome.Obeys source value fault)
    (log : List Event) : { outcome with log }.Obeys source value fault :=
  ⟨h.later, h.value, h.fault⟩

lemma obeys_ok {found : α} (hlater : source.Later rest) (h : value found) :
    Obeys ⟨.ok found, log, rest⟩ source value fault where
  later := hlater
  value _ hfound := Except.ok.inj hfound ▸ h
  fault _ herror := nomatch herror

lemma obeys_error {error : Fault} (hlater : source.Later rest) (h : fault error) :
    Obeys (⟨.error error, log, rest⟩ : Outcome α) source value fault where
  later := hlater
  value _ hfound := nomatch hfound
  fault _ herror := Except.error.inj herror ▸ h

end Outcome

namespace Inspection

variable {α β : Type}

/-- Whenever the inspection is made on the source, its outcome obeys the conditions. -/
def Ensures (inspection : Inspection α) (source : Source) (value : α → Prop)
    (fault : Fault → Prop) : Prop :=
  ∀ later, source.Later later → (inspection later).Obeys source value fault

section Rules

variable {source : Source} {value : α → Prop} {fault fault' : Fault → Prop}

/-- A stage may name the faults of its steps its own way. -/
theorem Ensures.imp_fault {inspection : Inspection α} (h : inspection.Ensures source value fault)
    (hfault : ∀ error, fault error → fault' error) :
    inspection.Ensures source value fault' := by
  intro later hlater
  have hobeys := h later hlater
  exact {
    later := hobeys.later
    value := hobeys.value
    fault := fun error herror => hfault error (hobeys.fault error herror) }

/-- What the first step ensures is what the next one may rely on. -/
theorem Ensures.bind {first : Inspection α} {next : α → Inspection β} {result : β → Prop}
    (hfirst : first.Ensures source value fault)
    (hnext : ∀ found, value found → (next found).Ensures source result fault) :
    (first >>= next).Ensures source result fault := by
  intro later hlater
  rcases hrun : first later with ⟨outcome, log, rest⟩
  have hobeys := hfirst later hlater
  rw [hrun] at hobeys
  cases outcome with
  | error error =>
    rw [bind_apply_of_error hrun]
    exact Outcome.obeys_error hobeys.later (hobeys.fault error rfl)
  | ok found =>
    rw [bind_apply_of_ok hrun]
    exact (hnext found (hobeys.value found rfl) rest hobeys.later).relog _

lemma ensures_ofExcept {result : Except Fault α}
    (hvalue : ∀ found, result = .ok found → value found)
    (hfault : ∀ error, result = .error error → fault error) :
    (ofExcept result).Ensures source value fault :=
  fun _ hlater => { later := hlater, value := hvalue, fault := hfault }

lemma ensures_pure {found : α} (h : value found) :
    (pure found : Inspection α).Ensures source value fault :=
  fun _ hlater => Outcome.obeys_ok hlater h

lemma ensures_fail {error : Fault} (h : fault error) :
    (fail error : Inspection α).Ensures source value fault :=
  fun _ hlater => Outcome.obeys_error hlater h

/-- A note in the log is no condition on what follows. -/
lemma ensures_note_bind {events : List Event} {next : Inspection α}
    (h : next.Ensures source value fault) :
    (note events >>= fun _ => next).Ensures source value fault := by
  intro later hlater
  have hnote : note events later = ⟨.ok (), events, later⟩ := rfl
  rw [bind_apply_of_ok hnote]
  exact (h later hlater).relog _

lemma ensures_length_bind {next : UInt64 → Inspection α}
    (h : (next source.length).Ensures source value fault) :
    (length >>= next).Ensures source value fault := by
  intro later hlater
  have hlength : length later = ⟨.ok source.length, [], later⟩ := by
    rw [length, hlater.length]
  rw [bind_apply_of_ok hlength]
  exact (h later hlater).relog _

end Rules

end Inspection

/-! ### The positioned read -/

/-- The faults of a positioned read: the reader failed, the extent is not in the file, or fewer
bytes were gathered. -/
inductive Source.Denies (source : Source) (part : Part) (extent : Extent) : Fault → Prop where
  | io {error : IoError} (hraised : source.reader.Raises error) :
      Denies source part extent (.io error)
  | outside (hlong : source.length.toNat < extent.offset.toNat + extent.size.toNat) :
      Denies source part extent (.format (.truncated part extent.offset extent.size
        (source.length.toNat - extent.offset.toNat).toUInt64))
  | short {bytes : Bytes}
      (hinside : extent.offset.toNat + extent.size.toNat ≤ source.length.toNat)
      (hgather : source.reader.gatherAt extent.offset.toNat extent.size.toNat = .ok bytes)
      (hshort : bytes.length < extent.size.toNat) :
      Denies source part extent (.format (.truncated part extent.offset extent.size
        bytes.length.toUInt64))

namespace Inspection

/-- A positioned read gives all bytes of its extent. -/
theorem ensures_readAt (source : Source) (part : Part) (extent : Extent) :
    (readAt part extent).Ensures source
      (fun bytes => bytes.length = extent.size.toNat ∧
        extent.offset.toNat + extent.size.toNat ≤ source.length.toNat)
      (source.Denies part extent) := by
  intro later hlater
  by_cases h : extent.offset.toNat + extent.size.toNat ≤ source.length.toNat
  · have hinside : extent.offset.toNat + extent.size.toNat ≤ later.length.toNat := by
      rw [hlater.length]
      exact h
    by_cases hseek : later.reader.FailsToSeek
    · obtain ⟨rest, hread, hrest, -⟩ := @readAt_of_failsToSeek later part extent hinside hseek
      rw [hread]
      exact Outcome.obeys_error (hlater.trans hrest) (.io (hlater.raises_iff.mp (.inl rfl)))
    · obtain ⟨rest, hread, hrest, -⟩ :=
        @readAt_of_not_failsToSeek later part extent hinside hseek
      rw [hread, hlater.gatherAt_eq]
      cases hgather : source.reader.gatherAt extent.offset.toNat extent.size.toNat with
      | error error =>
        have hraised := Reader.eq_readError_of_gatherAt hgather
        exact Outcome.obeys_error (hlater.trans hrest) (.io (.inr hraised))
      | ok bytes =>
        by_cases hlength : bytes.length = extent.size.toNat
        · rw [complete, if_pos hlength]
          exact Outcome.obeys_ok (hlater.trans hrest) ⟨hlength, h⟩
        · have hle := (Reader.eq_slice_of_gatherAt hgather).1
          rw [complete, if_neg hlength]
          exact Outcome.obeys_error (hlater.trans hrest)
            (.short h hgather (Nat.lt_of_le_of_ne hle hlength))
  · have hlong := Nat.not_le.mp h
    rw [← hlater.length] at hlong
    rw [readAt_of_outside hlong]
    rw [hlater.length] at hlong ⊢
    exact Outcome.obeys_error hlater (.outside hlong)

end Inspection

/-! ### The stages -/

/-- The faults at which the reading of a file header stops. -/
inductive FileHeader.Stops (source : Source) : Fault → Prop where
  | read {fault : Fault} (hread : source.Denies .fileHeader ⟨0, byteSize.toUInt64⟩ fault) :
      Stops source fault
  | badMagic (found : Vector UInt8 4) : Stops source (.format (.badMagic found))
  | unsupportedClass (code : UInt8) : Stops source (.format (.unsupportedClass code))
  | unsupportedEncoding (code : UInt8) : Stops source (.format (.unsupportedEncoding code))
  | tables {header : FileHeader} {fault : Fault}
      (htables : header.checkTables source.length = .error fault) : Stops source fault

/-- The faults at which the reading of a section header table stops. -/
inductive SectionTable.Stops (source : Source) (header : FileHeader) : Fault → Prop where
  | badEntrySize (hsize : header.shentsize ≠ 64) :
      Stops source header (.format (.badEntrySize 64 header.shentsize))
  | unsupportedEncoding (horder : header.byteOrder? = none) :
      Stops source header (.format (.unsupportedEncoding header.encoding))
  | read {fault : Fault} (hnum : header.shnum ≠ 0) (hsize : header.shentsize = 64)
      (hread : source.Denies .sectionHeaderTable (extent header) fault) :
      Stops source header fault
  | misplaced {index : Nat} {record : SectionHeader} (htype : record.type ≠ 8)
      (hlong : source.length.toNat < record.offset.toNat + record.size.toNat) :
      Stops source header (.format (.truncated (.sectionAt index) record.offset record.size
        (source.length.toNat - record.offset.toNat).toUInt64))

/-- The faults at which the loading of a name table stops. -/
inductive NameTable.Stops (source : Source) (header : FileHeader) (sections : List SectionHeader) :
    Fault → Prop where
  | badReference (hindex : sections.length ≤ header.shstrndx.toNat) :
      Stops source header sections
        (.format (.badReference .nameTable header.shstrndx.toNat sections.length))
  | read {sh : SectionHeader} {fault : Fault} (hsh : sections[header.shstrndx.toNat]? = some sh)
      (hread : source.Denies .nameTable sh.extent fault) : Stops source header sections fault

/-- The faults at which an analysis stops: those of its stages. -/
inductive Analysis.Stops (source : Source) : Fault → Prop where
  | header {fault : Fault} (h : FileHeader.Stops source fault) : Stops source fault
  | sections {header : FileHeader} {fault : Fault} (h : SectionTable.Stops source header fault) :
      Stops source fault
  | names {header : FileHeader} {sections : List SectionHeader} {fault : Fault}
      (h : NameTable.Stops source header sections fault) : Stops source fault

namespace FileHeader

variable {source : Source}

lemma Declares.byteOrder?_eq_some {header : FileHeader} {order : ByteOrder}
    (h : header.Declares order) : header.byteOrder? = some order :=
  ByteOrder.ofCode?_eq_some_iff.mpr h.encoding

/-- Bytes enough for a header may have the wrong identification, and nothing else is wrong with
them. -/
lemma ensures_parse {bytes : Bytes} (h : 64 ≤ bytes.length) :
    (Inspection.ofExcept (parse bytes)).Ensures source
      (fun header => ∃ order, header.byteOrder? = some order) (Stops source) := by
  obtain ⟨result, hverdict⟩ := exists_verdict bytes
  rw [hverdict.parse_eq]
  cases hverdict with
  | accepted hdeclares _ => exact Inspection.ensures_pure ⟨_, hdeclares.byteOrder?_eq_some⟩
  | truncated hlength => omega
  | badMagic => exact Inspection.ensures_fail (.badMagic _)
  | unsupportedClass => exact Inspection.ensures_fail (.unsupportedClass _)
  | unsupportedEncoding => exact Inspection.ensures_fail (.unsupportedEncoding _)

/-- A header that was read declares a byte order, and its tables lie in the file. -/
theorem ensures_read (source : Source) :
    read.Ensures source
      (fun header => (∃ order, header.byteOrder? = some order) ∧
        header.TablesFit source.length.toNat)
      (Stops source) := by
  apply ((Inspection.ensures_readAt source _ _).imp_fault fun _ => .read).bind
  rintro bytes ⟨hlength, -⟩
  apply (ensures_parse (Nat.le_of_eq hlength.symm)).bind
  intro header horder
  apply Inspection.ensures_length_bind
  have htables : (Inspection.ofExcept (header.checkTables source.length)).Ensures source
      (fun _ => header.TablesFit source.length.toNat) (Stops source) :=
    Inspection.ensures_ofExcept (fun _ hok => checkTables_eq_ok_iff.mp hok) fun _ => .tables
  apply htables.bind
  intro _ hfit
  exact Inspection.ensures_note_bind (Inspection.ensures_pure ⟨horder, hfit⟩)

end FileHeader

namespace SectionTable

variable {source : Source} {header : FileHeader}

lemma ensures_check {sections : List SectionHeader} :
    (Inspection.ofExcept (check source.length sections)).Ensures source
      (fun _ => ∀ sh ∈ sections, sh.Contained source.length.toNat) (Stops source header) := by
  cases hfind : sections.zipIdx.find? fun entry => !admits source.length entry.1 with
  | none =>
    have hall := find?_misplaced_eq_none_iff.mp hfind
    rw [check_of_contained hall]
    exact Inspection.ensures_pure hall
  | some entry =>
    obtain ⟨record, index⟩ := entry
    obtain ⟨hrecord, hbefore, htype, hlong⟩ := find?_misplaced_eq_some_iff.mp hfind
    rw [check_of_misplaced hrecord hbefore htype hlong]
    exact Inspection.ensures_fail (.misplaced htype hlong)

/-- Bytes enough for the records are decoded without fault. -/
lemma ensures_decode (order : ByteOrder) {bytes : Bytes}
    (hlength : bytes.length = (extent header).size.toNat) :
    (Inspection.ofExcept (((SectionHeader.decode order).many header.shnum.toNat bytes).mapError
      Fault.io)).Ensures source (fun decoded => decoded.1.length = header.shnum.toNat)
        (Stops source header) := by
  have hwithin : 0 + 64 * header.shnum.toNat ≤ bytes.length := by
    apply Nat.le_of_eq
    rw [hlength, File.extent_size, Nat.zero_add]
  have hmany := @many_decode_drop order bytes 0 header.shnum.toNat hwithin
  rw [List.drop_zero] at hmany
  rw [hmany]
  exact Inspection.ensures_pure (by rw [List.length_map, List.length_range])

lemma ensures_readRecords (source : Source) {order : ByteOrder} (hnum : header.shnum ≠ 0)
    (hsize : header.shentsize = 64) :
    (readRecords header order).Ensures source
      (fun sections => sections.length = header.shnum.toNat ∧
        ∀ sh ∈ sections, sh.Contained source.length.toNat)
      (Stops source header) := by
  apply ((Inspection.ensures_readAt source _ _).imp_fault fun _ => .read hnum hsize).bind
  rintro bytes ⟨hlength, -⟩
  apply (ensures_decode order hlength).bind
  rintro ⟨sections, _⟩ hcount
  apply Inspection.ensures_length_bind
  apply Inspection.ensures_note_bind
  apply ensures_check.bind
  intro _ hall
  exact Inspection.ensures_note_bind (Inspection.ensures_pure ⟨hcount, hall⟩)

/-- Of a table that was read there are as many sections as the header counts, and their contents
lie in the file. -/
theorem ensures_read (source : Source) (header : FileHeader) :
    (read header).Ensures source
      (fun sections => sections.length = header.shnum.toNat ∧
        ∀ sh ∈ sections, sh.Contained source.length.toNat)
      (Stops source header) := by
  by_cases hnum : header.shnum = 0
  · rw [read_of_shnum_eq_zero hnum, hnum]
    exact Inspection.ensures_note_bind (Inspection.ensures_pure ⟨rfl, nofun⟩)
  by_cases hsize : header.shentsize = 64
  · cases horder : header.byteOrder? with
    | none =>
      rw [read_of_byteOrder?_eq_none hnum hsize horder]
      exact Inspection.ensures_fail (.unsupportedEncoding horder)
    | some order =>
      rw [read_of_byteOrder?_eq_some hnum hsize horder]
      exact ensures_readRecords source hnum hsize
  · rw [read_of_shentsize_ne hnum hsize]
    exact Inspection.ensures_fail (.badEntrySize hsize)

end SectionTable

/-- A name table that was loaded has the size that its section states. -/
theorem NameTable.ensures_load (source : Source) (header : FileHeader)
    (sections : List SectionHeader) :
    (load header sections).Ensures source
      (fun table => ∃ sh, sections[header.shstrndx.toNat]? = some sh ∧
        table.size = sh.size.toNat)
      (Stops source header sections) := by
  cases hsh : sections[header.shstrndx.toNat]? with
  | none =>
    rw [load_of_getElem?_eq_none hsh]
    exact Inspection.ensures_fail (.badReference (List.getElem?_eq_none_iff.mp hsh))
  | some sh =>
    rw [load_of_getElem?_eq_some hsh]
    apply ((Inspection.ensures_readAt source _ _).imp_fault fun _ => .read hsh).bind
    rintro bytes ⟨hlength, -⟩
    exact Inspection.ensures_note_bind (Inspection.ensures_pure ⟨sh, rfl, hlength⟩)

/-- An analysis that succeeds bears the path it was given, and has the sections that its header
counts, all of them in the file. -/
theorem Analysis.ensures_inspect (source : Source) (path : String) :
    (inspect path).Ensures source
      (fun analysis => analysis.path = path ∧ analysis.header.TablesFit source.length.toNat ∧
        analysis.sectionHeaders.length = analysis.header.shnum.toNat ∧
        ∀ sh ∈ analysis.sectionHeaders, sh.Contained source.length.toNat)
      (Stops source) := by
  apply Inspection.ensures_length_bind
  apply Inspection.ensures_note_bind
  apply ((FileHeader.ensures_read source).imp_fault fun _ => .header).bind
  rintro header ⟨-, htables⟩
  apply ((SectionTable.ensures_read source header).imp_fault fun _ => .sections).bind
  rintro sections ⟨hcount, hall⟩
  apply ((NameTable.ensures_load source header sections).imp_fault fun _ => .names).bind
  intro names _
  exact Inspection.ensures_note_bind (Inspection.ensures_pure ⟨rfl, htables, hcount, hall⟩)

/-- A reader cannot be taken up, or it is, and then the inspection decides. -/
lemma Analysis.ofReader_cases (reader : Reader) (path : String) :
    (ofReader reader path).1 = .error (.io reader.seekError) ∨
      (ofReader reader path).1 =
        (inspect path { reader := reader.takenUp, length := reader.reportedLength }).result := by
  by_cases hseek : reader.seekFault? = some (reader.seeks + 1) ∨
      reader.seekFault? = some (reader.seeks + 2)
  · left
    rw [ofReader_of_error (Source.ofReader_of_eq hseek)]
  · right
    obtain ⟨hfirst, hsecond⟩ := not_or.mp hseek
    rw [ofReader_of_ok (Source.ofReader_of_ne hfirst hsecond)]

lemma Analysis.path_of_ofReader {reader : Reader} {path : String} {analysis : Analysis}
    (h : (ofReader reader path).1 = .ok analysis) : analysis.path = path := by
  rcases ofReader_cases reader path with herror | hinspect
  · cases herror.symm.trans h
  · rw [hinspect] at h
    exact (((ensures_inspect _ path) _ (.refl _)).value analysis h).1

end ElfInspect
