import ElfInspect.NameTable
import ElfInspect.Proofs.Segments
import Mathlib.Data.List.TakeWhile

/-!
# Names at offsets

A name is what the decoder makes of the bytes from an offset up to a zero byte or to the end of
the table. Nothing else in the table has a part in it, so that an offset into the middle of a name
gives the rest of that name. Ill-formed bytes in a name are replaced segment by segment, and what
stands on the other side of an ASCII character is left as it is.
-/

namespace ElfInspect.NameTable

/-- The bytes stand at the offset, and a zero byte or the end of the table is behind them. -/
structure RunAt (table : NameTable) (offset : UInt32) (run : Bytes) : Prop where
  nonzero : 0 ∉ run
  placed : ∃ before after, table.bytes = before ++ run ++ after ∧
    before.length = offset.toNat ∧ ∀ byte ∈ after.head?, byte = 0

/-- The name that the bytes give by themselves. -/
def nameOf (run : Bytes) : String :=
  resolve ⟨run⟩ 0

section Runs

variable {table : NameTable} {offset : UInt32} {run : Bytes}

lemma takeWhile_run_append {after : Bytes} (h : 0 ∉ run) (hafter : ∀ byte ∈ after.head?, byte = 0) :
    (run ++ after).takeWhile (· ≠ 0) = run := by
  have hrun : ∀ byte ∈ run, decide (byte ≠ 0) = true := by
    intro byte hbyte
    exact decide_eq_true (ne_of_mem_of_not_mem hbyte h)
  rw [List.takeWhile_append_of_pos hrun]
  cases after with
  | nil => exact List.append_nil run
  | cons byte after =>
    cases hafter byte rfl
    exact List.append_nil run

lemma RunAt.run_eq (h : table.RunAt offset run) : table.run offset.toNat = run := by
  obtain ⟨before, after, hbytes, hlength, hafter⟩ := h.placed
  rw [NameTable.run, hbytes, ← hlength, List.append_assoc, List.drop_left,
    takeWhile_run_append h.nonzero hafter]

lemma RunAt.resolve_eq (h : table.RunAt offset run) : table.resolve offset = Utf8.decode run := by
  rw [resolve, h.run_eq]

lemma runAt_alone (h : 0 ∉ run) : RunAt ⟨run⟩ 0 run :=
  ⟨h, [], [], (List.append_nil run).symm, rfl, nofun⟩

lemma nameOf_eq (h : 0 ∉ run) : nameOf run = Utf8.decode run :=
  (runAt_alone h).resolve_eq

lemma zero_not_mem_run (table : NameTable) (start : Nat) : 0 ∉ table.run start := by
  intro hmem
  simpa using List.mem_takeWhile_imp hmem

lemma run_eq_nil_iff {start : Nat} :
    table.run start = [] ↔ table.size ≤ start ∨ table.bytes[start]? = some 0 := by
  rw [NameTable.run, size, ← List.head?_drop, ← List.drop_eq_nil_iff]
  cases table.bytes.drop start with
  | nil => simp
  | cons byte rest => simp [List.takeWhile_cons]

end Runs

/-! ### Looking a name up -/

section Lookup

variable {before : Bytes} {front tail : String} {offset : UInt32}

/-- The rest of a name is a run of its own. -/
lemma runAt_tail (after : Bytes) (htext : '\x00' ∉ (front ++ tail).toList)
    (hoffset : offset.toNat = before.length + (Utf8.encode front).length)
    (hafter : ∀ byte ∈ after.head?, byte = 0) :
    RunAt ⟨before ++ Utf8.encode (front ++ tail) ++ after⟩ offset (Utf8.encode tail) := by
  rw [String.toList_append, List.mem_append, not_or] at htext
  refine ⟨Utf8.zero_not_mem_encode htext.2, before ++ Utf8.encode front, after, ?_, ?_, hafter⟩
  · simp only [Utf8.encode, String.toList_append, List.flatMap_append, List.append_assoc]
  · rw [List.length_append, hoffset]

/-- A name is found from any of its characters on, whatever else is in the table. It is empty only
at a zero byte or outside the table, and it never has the character U+0000 in it. -/
theorem resolve_sharedSuffix (after : Bytes) (htext : '\x00' ∉ (front ++ tail).toList)
    (hoffset : offset.toNat = before.length + (Utf8.encode front).length) :
    (resolve ⟨before ++ Utf8.encode (front ++ tail) ++ 0 :: after⟩ offset = tail ∧
      resolve ⟨before ++ Utf8.encode (front ++ tail)⟩ offset = tail) ∧
    (∀ (table table' : NameTable) (offset offset' : UInt32) (run : Bytes),
      table.RunAt offset run → table'.RunAt offset' run →
        table.resolve offset = table'.resolve offset') ∧
    ∀ (table : NameTable) (offset : UInt32),
      (table.resolve offset = "" ↔
        table.size ≤ offset.toNat ∨ table.bytes[offset.toNat]? = some 0) ∧
      '\x00' ∉ (table.resolve offset).toList := by
  have hterminated := runAt_tail (0 :: after) htext hoffset (by simp)
  have hunterminated := runAt_tail [] htext hoffset nofun
  rw [List.append_nil] at hunterminated
  refine ⟨⟨?_, ?_⟩, ?_, ?_⟩
  · rw [hterminated.resolve_eq, Utf8.decode_encode]
  · rw [hunterminated.resolve_eq, Utf8.decode_encode]
  · intro table table' offset offset' run h h'
    rw [h.resolve_eq, h'.resolve_eq]
  · intro table offset
    constructor
    · rw [← run_eq_nil_iff, resolve, Utf8.decode_eq_empty_iff]
    · exact Utf8.null_not_mem_decode (zero_not_mem_run table _)

/-- ".text" is found in the middle of ".rela.text". -/
theorem resolve_sharedSuffix_rela :
    '\x00' ∉ (".rela" ++ ".text").toList ∧
      (6 : UInt32).toNat = ([0] : Bytes).length + (Utf8.encode ".rela").length ∧
      resolve ⟨[0] ++ Utf8.encode (".rela" ++ ".text") ++ 0 :: Utf8.encode ".bss"⟩ 6 = ".text" := by
  have htext : '\x00' ∉ (".rela" ++ ".text").toList := by decide
  have hoffset : (6 : UInt32).toNat = ([0] : Bytes).length + (Utf8.encode ".rela").length := by
    decide
  exact ⟨htext, hoffset, (resolve_sharedSuffix (Utf8.encode ".bss") htext hoffset).1.1⟩

end Lookup

/-! ### Ill-formed names -/

section IllFormed

variable {run bytes before after : Bytes} {c : UInt8}

lemma resolve_eq_nameOf {table : NameTable} {offset : UInt32} (h : table.RunAt offset run) :
    table.resolve offset = nameOf run := by
  rw [h.resolve_eq, nameOf_eq h.nonzero]

/-- A name falls into segments in just one way, and it has the character of each of them. -/
theorem resolve_segments (h : 0 ∉ run) :
    ∃ segments, Utf8.Division segments run ∧
      (∀ other, Utf8.Division other run → other = segments) ∧
      segments.flatten = run ∧ (∀ segment ∈ segments, segment ≠ []) ∧
      List.Forall₂ Utf8.IsReadAs segments (nameOf run).toList ∧
      ∀ (table : NameTable) (offset : UInt32), table.RunAt offset run →
        table.resolve offset = nameOf run := by
  obtain ⟨segments, hdivision⟩ := Utf8.exists_division run
  refine ⟨segments, hdivision, ?_, hdivision.flatten_eq, hdivision.ne_nil_of_mem, ?_, ?_⟩
  · intro other hother
    exact hother.unique hdivision
  · rw [nameOf_eq h, Utf8.decode, String.toList_ofList]
    exact hdivision.decodeChars
  · intro table offset hrun
    exact resolve_eq_nameOf hrun

/-- Here an overlong form is three stray bytes, and a sequence broken off is one segment. -/
theorem resolve_segments_overlong :
    0 ∉ ([0xe0, 0x80, 0x80, 0xf0, 0x90, 0x80, 0x2e] : Bytes) ∧
      ∃ segments, Utf8.Division segments [0xe0, 0x80, 0x80, 0xf0, 0x90, 0x80, 0x2e] ∧
        List.Forall₂ Utf8.IsReadAs segments ['\uFFFD', '\uFFFD', '\uFFFD', '\uFFFD', '.'] := by
  have hzero : 0 ∉ ([0xe0, 0x80, 0x80, 0xf0, 0x90, 0x80, 0x2e] : Bytes) := by decide
  have hname : (nameOf [0xe0, 0x80, 0x80, 0xf0, 0x90, 0x80, 0x2e]).toList =
      ['\uFFFD', '\uFFFD', '\uFFFD', '\uFFFD', '.'] := by
    decide +kernel
  obtain ⟨segments, hdivision, -, -, -, hread, -⟩ := resolve_segments hzero
  rw [hname] at hread
  exact ⟨hzero, segments, hdivision, hread⟩

/-- Decoding a name keeps all of it exactly if it is well formed. What is ill formed in it has no
effect beyond the next ASCII character, nor on anything well formed in front of it. -/
theorem nameOf_faithful (hbytes : 0 ∉ bytes) (hbefore : 0 ∉ before) (hafter : 0 ∉ after)
    (hpos : 1 ≤ c) (hascii : c ≤ 127) :
    (∀ (table : NameTable) (offset : UInt32), table.RunAt offset bytes →
      table.resolve offset = nameOf bytes) ∧
    (Utf8.encode (nameOf bytes) = bytes ↔ Utf8.IsWellFormed bytes) ∧
    nameOf (before ++ [c] ++ after) =
      nameOf before ++ String.singleton (Char.ofNat c.toNat) ++ nameOf after ∧
    (Utf8.IsWellFormed before → nameOf (before ++ after) = nameOf before ++ nameOf after) ∧
    0 ∉ Utf8.encode (nameOf bytes) ∧ nameOf (Utf8.encode (nameOf bytes)) = nameOf bytes := by
  have hc : 0 ∉ [c] := by
    rw [List.mem_singleton]
    rintro rfl
    exact absurd hpos (by decide)
  have hback : 0 ∉ Utf8.encode (nameOf bytes) := by
    rw [nameOf_eq hbytes]
    exact Utf8.zero_not_mem_encode (Utf8.null_not_mem_decode hbytes)
  have hmiddle : 0 ∉ before ++ [c] ++ after := by
    simp only [List.mem_append, not_or]
    exact ⟨⟨hbefore, hc⟩, hafter⟩
  have hboth : 0 ∉ before ++ after := by
    rw [List.mem_append, not_or]
    exact ⟨hbefore, hafter⟩
  refine ⟨?_, ?_, ?_, ?_, hback, ?_⟩
  · intro table offset hrun
    exact resolve_eq_nameOf hrun
  · rw [nameOf_eq hbytes, Utf8.encode_decode_iff]
  · have hlt : c < 0x80 := UInt8.lt_of_le_of_lt hascii (by decide)
    rw [nameOf_eq hmiddle, nameOf_eq hbefore, nameOf_eq hafter, Utf8.decode_ascii hlt]
  · intro hwell
    rw [nameOf_eq hboth, nameOf_eq hbefore, nameOf_eq hafter, hwell.decode_append]
  · rw [nameOf_eq hback, nameOf_eq hbytes, Utf8.decode_encode]

/-- A point between the second and the third byte of a sequence is kept, and neither side is well
formed by itself. -/
theorem nameOf_faithful_cut :
    0 ∉ ([0xac] : Bytes) ∧ 0 ∉ ([0xe2, 0x82] : Bytes) ∧ (1 : UInt8) ≤ 0x2e ∧ (0x2e : UInt8) ≤ 127 ∧
      nameOf ([0xe2, 0x82] ++ [0x2e] ++ [0xac]) =
        nameOf [0xe2, 0x82] ++ String.singleton '.' ++ nameOf [0xac] ∧
      ¬Utf8.IsWellFormed [0xac] := by
  have hafter : 0 ∉ ([0xac] : Bytes) := by decide
  have hbefore : 0 ∉ ([0xe2, 0x82] : Bytes) := by decide
  have hpos : (1 : UInt8) ≤ 0x2e := by decide
  have hascii : (0x2e : UInt8) ≤ 127 := by decide
  obtain ⟨-, hwell, hmiddle, -⟩ := nameOf_faithful hafter hbefore hafter hpos hascii
  refine ⟨hafter, hbefore, hpos, hascii, hmiddle, ?_⟩
  rw [← hwell]
  decide +kernel

end IllFormed

end ElfInspect.NameTable
