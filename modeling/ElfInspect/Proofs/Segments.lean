import ElfInspect.Proofs.Sequences

/-!
# Divisions of ill-formed bytes

Any bytes fall into well-formed sequences, sequences broken off as late as the bytes allow, and
stray bytes, and they do so in one way only. The decoder has one character for each of these
segments: that of the sequence, or the replacement.
-/

namespace ElfInspect.Utf8

/-- The bytes are the front of a longer sequence. -/
def IsBegun (bytes : Bytes) : Prop :=
  bytes ≠ [] ∧ ∃ more, more ≠ [] ∧ IsSequence (bytes ++ more)

/-- What bytes in front of `rest` can form. A sequence is broken off where the next byte neither
goes on with it nor completes it. -/
inductive IsSegment (rest : Bytes) : Bytes → Prop
  | sequence {segment : Bytes} (h : IsSequence segment) : IsSegment rest segment
  | brokenOff {segment : Bytes} (h : IsBegun segment)
      (hstop : ∀ byte ∈ rest.head?,
        ¬IsBegun (segment ++ [byte]) ∧ ¬IsSequence (segment ++ [byte])) : IsSegment rest segment
  | stray {byte : UInt8} (h : ∀ more, ¬IsSequence (byte :: more)) : IsSegment rest [byte]

/-- The segments that bytes fall into, in order. -/
inductive Division : List Bytes → Bytes → Prop
  | nil : Division [] []
  | cons {segment rest : Bytes} {segments : List Bytes} (h : IsSegment rest segment)
      (hrest : Division segments rest) : Division (segment :: segments) (segment ++ rest)

/-- A sequence is read as its character, and any other segment as the replacement. -/
def IsReadAs (segment : Bytes) (c : Char) : Prop :=
  if IsSequence segment then String.utf8EncodeChar c = segment else c = replacement

instance (segment : Bytes) (c : Char) : Decidable (IsReadAs segment c) := by
  unfold IsReadAs
  infer_instance

/-! ### One division -/

section Segments

variable {segment segment' rest rest' : Bytes}

lemma IsBegun.not_isSequence (h : IsBegun segment) : ¬IsSequence segment := by
  intro hsequence
  obtain ⟨-, more, hmore, hwhole⟩ := h
  exact hmore (hsequence.eq_nil_of_append hwhole)

lemma IsSegment.ne_nil (h : IsSegment rest segment) : segment ≠ [] := by
  cases h with
  | sequence h => exact h.ne_nil
  | brokenOff h => exact h.1
  | stray => exact List.cons_ne_nil _ _

/-- No byte that comes after a segment could be a part of it. -/
lemma IsSegment.not_longer {byte : UInt8} {further : Bytes}
    (h : IsSegment (byte :: further ++ rest) segment) :
    ¬IsSegment rest (segment ++ byte :: further) := by
  intro hlonger
  obtain ⟨more, hwhole⟩ : ∃ more, IsSequence (segment ++ byte :: more) := by
    generalize hlong : segment ++ byte :: further = longer at hlonger
    cases hlonger with
    | sequence hsequence => exact ⟨further, hlong ▸ hsequence⟩
    | brokenOff hbegun =>
      obtain ⟨-, more, -, hwhole⟩ := hbegun
      rw [← hlong, List.append_assoc] at hwhole
      exact ⟨further ++ more, hwhole⟩
    | stray =>
      have hpos := List.length_pos_iff.mpr h.ne_nil
      have hlength := congrArg List.length hlong
      simp at hlength
      omega
  cases h with
  | sequence h => cases h.eq_nil_of_append hwhole
  | brokenOff h hstop =>
    obtain ⟨hbegun, hsequence⟩ := hstop byte rfl
    cases more with
    | nil => exact hsequence hwhole
    | cons next more =>
      refine hbegun ⟨by simp, next :: more, List.cons_ne_nil _ _, ?_⟩
      rwa [List.append_assoc]
  | stray h => exact h _ hwhole

lemma IsSegment.unique (h : IsSegment rest segment) (h' : IsSegment rest' segment')
    (heq : segment ++ rest = segment' ++ rest') : segment = segment' ∧ rest = rest' := by
  obtain ⟨more, rfl, rfl⟩ | ⟨more, rfl, rfl⟩ := List.append_eq_append_iff.mp heq
  · cases more with
    | nil => exact ⟨(List.append_nil _).symm, rfl⟩
    | cons byte further => exact (h.not_longer h').elim
  · cases more with
    | nil => exact ⟨List.append_nil _, rfl⟩
    | cons byte further => exact (h'.not_longer h).elim

theorem Division.unique {segments segments' : List Bytes} {bytes : Bytes}
    (h : Division segments bytes) (h' : Division segments' bytes) : segments = segments' := by
  induction h generalizing segments' with
  | nil =>
    generalize hnil : ([] : Bytes) = bytes at h'
    cases h' with
    | nil => rfl
    | cons h' => exact (h'.ne_nil (List.append_eq_nil_iff.mp hnil.symm).1).elim
  | @cons segment rest segments h hrest ih =>
    generalize hbytes : segment ++ rest = bytes at h'
    cases h' with
    | nil => exact (h.ne_nil (List.append_eq_nil_iff.mp hbytes).1).elim
    | cons h' hrest' =>
      obtain ⟨rfl, rfl⟩ := h.unique h' hbytes
      rw [ih hrest']

/-- A sequence that is begun goes on as far as it can. -/
lemma IsBegun.exists_isSegment (h : IsBegun segment) (bytes : Bytes) :
    ∃ more rest, bytes = more ++ rest ∧ IsSegment rest (segment ++ more) := by
  induction bytes generalizing segment with
  | nil =>
    refine ⟨[], [], rfl, ?_⟩
    rw [List.append_nil]
    exact .brokenOff h nofun
  | cons byte bytes ih =>
    by_cases hsequence : IsSequence (segment ++ [byte])
    · exact ⟨[byte], bytes, rfl, .sequence hsequence⟩
    by_cases hbegun : IsBegun (segment ++ [byte])
    · obtain ⟨more, rest, rfl, hsegment⟩ := ih hbegun
      rw [List.append_assoc] at hsegment
      exact ⟨byte :: more, rest, rfl, hsegment⟩
    · refine ⟨[], byte :: bytes, rfl, ?_⟩
      rw [List.append_nil]
      refine .brokenOff h ?_
      rintro _ ⟨⟩
      exact ⟨hbegun, hsequence⟩

lemma exists_isSegment (byte : UInt8) (bytes : Bytes) :
    ∃ segment rest, byte :: bytes = segment ++ rest ∧ IsSegment rest segment := by
  by_cases hbegun : IsBegun [byte]
  · obtain ⟨more, rest, rfl, hsegment⟩ := hbegun.exists_isSegment bytes
    exact ⟨byte :: more, rest, rfl, hsegment⟩
  by_cases hsequence : IsSequence [byte]
  · exact ⟨[byte], bytes, rfl, .sequence hsequence⟩
  · refine ⟨[byte], bytes, rfl, .stray ?_⟩
    intro more hwhole
    cases more with
    | nil => exact hsequence hwhole
    | cons next more =>
      exact hbegun ⟨List.cons_ne_nil _ _, next :: more, List.cons_ne_nil _ _, hwhole⟩

theorem exists_division (bytes : Bytes) : ∃ segments, Division segments bytes := by
  induction hlength : bytes.length using Nat.strongRecOn generalizing bytes with
  | ind length ih =>
    cases bytes with
    | nil => exact ⟨[], .nil⟩
    | cons byte bytes =>
      obtain ⟨segment, rest, heq, hsegment⟩ := exists_isSegment byte bytes
      have hpos := List.length_pos_iff.mpr hsegment.ne_nil
      rw [heq, List.length_append] at hlength
      obtain ⟨segments, hrest⟩ := ih rest.length (by omega) rest rfl
      rw [heq]
      exact ⟨segment :: segments, .cons hsegment hrest⟩

end Segments

/-! ### Decoding a division -/

section Decoding

variable {sequence : Sequence} {segment rest : Bytes}

/-- A byte that the pending sequence needs, and not as its last one, leaves it pending. -/
lemma step_of_fits (found : List Char) {byte : UInt8} {more : Bytes}
    (h : Fits sequence.ranges (byte :: more)) (hmore : more ≠ []) :
    Scan.step ⟨found, some sequence⟩ byte = ⟨found, some (sequence.extend byte)⟩ ∧
      ∀ later, Fits (sequence.extend byte).ranges later ↔
        Fits sequence.ranges (byte :: later) := by
  cases h with
  | cons hbyte hrest =>
    obtain ⟨bits, missing, low, high⟩ := sequence
    have hlength := hrest.length_eq
    have hpos := List.length_pos_iff.mpr hmore
    rw [List.length_replicate] at hlength
    obtain ⟨n, rfl⟩ : ∃ n, missing = n + 2 := ⟨missing - 2, by simp only at hlength; omega⟩
    have hadmits : (Sequence.mk bits (n + 2) low high).admits byte = true :=
      Bool.and_eq_true_iff.mpr ⟨decide_eq_true hbyte.1, decide_eq_true hbyte.2⟩
    constructor
    · unfold Scan.step
      simp only [if_pos hadmits, Sequence.extend]
      rfl
    · intro later
      exact ⟨fun h => .cons hbyte h, fun h => (List.forall₂_cons.mp h).2⟩

lemma foldl_of_fits (found : List Char) {front more : Bytes}
    (h : Fits sequence.ranges (front ++ more)) (hmore : more ≠ []) :
    ∃ pending, front.foldl Scan.step ⟨found, some sequence⟩ = ⟨found, some pending⟩ ∧
      ∀ later, Fits pending.ranges later ↔ Fits sequence.ranges (front ++ later) := by
  induction front generalizing sequence with
  | nil => exact ⟨sequence, rfl, fun _ => Iff.rfl⟩
  | cons byte front ih =>
    obtain ⟨hstep, hlater⟩ :=
      step_of_fits found h (List.append_ne_nil_of_right_ne_nil front hmore)
    obtain ⟨pending, hfoldl, hpending⟩ := ih ((hlater _).mpr h)
    refine ⟨pending, ?_, fun later => (hpending later).trans (hlater _)⟩
    rw [List.foldl_cons, hstep, hfoldl]

/-- A begun sequence is pending, and it needs what would complete it. -/
lemma foldl_of_isBegun (h : IsBegun segment) :
    ∃ pending, segment.foldl Scan.step {} = ⟨[], some pending⟩ ∧
      ∀ later, Fits pending.ranges later ↔ IsSequence (segment ++ later) := by
  obtain ⟨hne, more, hmore, hwhole⟩ := h
  obtain ⟨byte, front, rfl⟩ := List.exists_cons_of_ne_nil hne
  rw [List.cons_append] at hwhole
  have hbyte : ¬byte < 0x80 := by
    intro hlt
    exact hmore (List.append_eq_nil_iff.mp ((isSequence_cons_of_lt hlt).mp hwhole)).2
  obtain ⟨sequence, hlead, hfits⟩ := (isSequence_cons_of_not_lt hbyte).mp hwhole
  obtain ⟨pending, hfoldl, hpending⟩ := foldl_of_fits [] hfits hmore
  refine ⟨pending, ?_, fun later => ?_⟩
  · rw [List.foldl_cons, step_lead hbyte hlead, hfoldl]
  · rw [hpending, List.cons_append, isSequence_cons_of_not_lt hbyte, hlead]
    simp

lemma fits_of_admits {byte : UInt8} (h : sequence.admits byte = true) :
    Fits sequence.ranges (byte :: List.replicate (sequence.missing - 1) 0x80) := by
  have hbyte : sequence.low ≤ byte ∧ byte ≤ sequence.high := by
    simpa [Sequence.admits] using h
  refine .cons hbyte ?_
  generalize sequence.missing - 1 = n
  induction n with
  | zero => exact .nil
  | succ n ih => exact .cons (by decide) ih

/-- Every lead byte has a sequence. -/
lemma admits_low {byte : UInt8} (h : Sequence.ofLead? byte = some sequence) :
    sequence.admits sequence.low = true := by
  unfold Sequence.ofLead? at h
  split_ifs at h
  all_goals
    cases h
    rfl

lemma admits_eq_false {byte : UInt8}
    (hpending : ∀ later, Fits sequence.ranges later ↔ IsSequence (segment ++ later))
    (hbegun : ¬IsBegun (segment ++ [byte])) (hsequence : ¬IsSequence (segment ++ [byte])) :
    sequence.admits byte = false := by
  by_contra hadmits
  have hwhole := (hpending _).mp (fits_of_admits (Bool.of_not_eq_false hadmits))
  cases hmissing : sequence.missing - 1 with
  | zero =>
    rw [hmissing] at hwhole
    exact hsequence hwhole
  | succ n =>
    rw [hmissing] at hwhole
    refine hbegun ⟨by simp, List.replicate (n + 1) 0x80, List.cons_ne_nil _ _, ?_⟩
    rwa [List.append_assoc]

lemma decodeChars_brokenOff_append (h : IsBegun segment)
    (hstop : ∀ byte ∈ rest.head?,
      ¬IsBegun (segment ++ [byte]) ∧ ¬IsSequence (segment ++ [byte])) :
    decodeChars (segment ++ rest) = replacement :: decodeChars rest := by
  obtain ⟨pending, hfoldl, hpending⟩ := foldl_of_isBegun h
  rw [decodeChars, List.foldl_append, hfoldl]
  cases rest with
  | nil => rfl
  | cons byte rest =>
    -- The byte is looked at afresh, as it would be behind a replacement.
    obtain ⟨hbegun, hsequence⟩ := hstop byte rfl
    have hadmits := admits_eq_false hpending hbegun hsequence
    have hstep : Scan.step ⟨[], some pending⟩ byte = Scan.step ⟨[replacement], none⟩ byte := by
      simp only [Scan.step, hadmits, Bool.false_eq_true, if_false]
    rw [List.foldl_cons, hstep, ← List.foldl_cons, finish_foldl_found]
    rfl

lemma decodeChars_stray_cons {byte : UInt8} (h : ∀ more, ¬IsSequence (byte :: more))
    (rest : Bytes) : decodeChars (byte :: rest) = replacement :: decodeChars rest := by
  have hbyte : ¬byte < 0x80 := fun hlt => h [] ((isSequence_cons_of_lt hlt).mpr rfl)
  have hlead : Sequence.ofLead? byte = none := by
    cases hlead : Sequence.ofLead? byte with
    | none => rfl
    | some sequence =>
      have hfits := fits_of_admits (admits_low hlead)
      exact (h _ ((isSequence_cons_of_not_lt hbyte).mpr ⟨sequence, hlead, hfits⟩)).elim
  have hstep : Scan.step {} byte = ⟨[replacement], none⟩ := by
    simp only [Scan.step, Scan.begin, if_neg hbyte, hlead]
  rw [decodeChars, List.foldl_cons, hstep, finish_foldl_found]
  rfl

/-- The decoder reads the segments one by one. -/
theorem Division.decodeChars {segments : List Bytes} {bytes : Bytes}
    (h : Division segments bytes) : List.Forall₂ IsReadAs segments (decodeChars bytes) := by
  induction h with
  | nil => exact .nil
  | @cons segment rest segments h _ ih =>
    cases h with
    | sequence h =>
      obtain ⟨c, rfl⟩ := h.exists_char
      rw [decodeChars_utf8EncodeChar_append]
      exact .cons (by rw [IsReadAs, if_pos h]) ih
    | brokenOff h hstop =>
      rw [decodeChars_brokenOff_append h hstop]
      exact .cons (by rw [IsReadAs, if_neg h.not_isSequence]) ih
    | stray h =>
      rw [List.singleton_append, decodeChars_stray_cons h]
      exact .cons (by rw [IsReadAs, if_neg (h [])]) ih

end Decoding

/-! ### Parts of names -/

section Parts

variable {segments segments' : List Bytes} {bytes rest : Bytes}

lemma Division.flatten_eq (h : Division segments bytes) : segments.flatten = bytes := by
  induction h with
  | nil => rfl
  | cons _ _ ih => rw [List.flatten_cons, ih]

lemma Division.ne_nil_of_mem (h : Division segments bytes) :
    ∀ segment ∈ segments, segment ≠ [] := by
  induction h with
  | nil => exact fun _ hmem => nomatch hmem
  | cons h _ ih => exact List.forall_mem_cons.mpr ⟨h.ne_nil, ih⟩

lemma IsReadAs.unique {segment : Bytes} {c c' : Char} (h : IsReadAs segment c)
    (h' : IsReadAs segment c') : c = c' := by
  unfold IsReadAs at h h'
  split at h
  · rw [if_pos ‹_›] at h'
    exact utf8EncodeChar_injective (h.trans h'.symm)
  · rw [if_neg ‹_›] at h'
    exact h.trans h'.symm

lemma forall₂_isReadAs_unique {chars chars' : List Char} (h : List.Forall₂ IsReadAs segments chars)
    (h' : List.Forall₂ IsReadAs segments chars') : chars = chars' := by
  induction h generalizing chars' with
  | nil =>
    cases h'
    rfl
  | cons hread _ ih =>
    cases h' with
    | cons hread' h' => rw [hread.unique hread', ih h']

/-- The bytes begin with nothing that a sequence could go on with. -/
def StandsApart (bytes : Bytes) : Prop :=
  ∀ byte ∈ bytes.head?, byte < 0x80

/-- No byte below 0x80 goes on with a sequence. -/
lemma not_isSequence_append_cons {front more : Bytes} {byte : UInt8} (h : byte < 0x80)
    (hne : front ≠ []) : ¬IsSequence (front ++ byte :: more) := by
  intro hsequence
  obtain ⟨first, front, rfl⟩ := List.exists_cons_of_ne_nil hne
  have hle := hsequence.le_of_mem byte (List.mem_append_right _ List.mem_cons_self)
  exact UInt8.not_le.mpr h hle

lemma IsSegment.append {segment : Bytes} (h : IsSegment bytes segment) (hrest : StandsApart rest) :
    IsSegment (bytes ++ rest) segment := by
  cases h with
  | sequence h => exact .sequence h
  | stray h => exact .stray h
  | brokenOff h hstop =>
    refine .brokenOff h ?_
    cases bytes with
    | cons byte bytes => exact hstop
    | nil =>
      intro byte hbyte
      have hlt := hrest byte hbyte
      constructor
      · rintro ⟨-, more, -, hwhole⟩
        rw [List.append_assoc] at hwhole
        exact not_isSequence_append_cons hlt h.1 hwhole
      · exact not_isSequence_append_cons hlt h.1

lemma Division.append (h : Division segments bytes) (hrest : StandsApart rest)
    (h' : Division segments' rest) : Division (segments ++ segments') (bytes ++ rest) := by
  induction h with
  | nil => exact h'
  | cons h _ ih =>
    rw [List.append_assoc]
    exact .cons (h.append hrest) ih

/-- What stands apart is decoded by itself. -/
theorem decodeChars_append_of_standsApart (bytes : Bytes) (hrest : StandsApart rest) :
    decodeChars (bytes ++ rest) = decodeChars bytes ++ decodeChars rest := by
  obtain ⟨segments, h⟩ := exists_division bytes
  obtain ⟨segments', h'⟩ := exists_division rest
  exact forall₂_isReadAs_unique (h.append hrest h').decodeChars
    (List.rel_append h.decodeChars h'.decodeChars)

lemma decode_eq_empty_iff : decode bytes = "" ↔ bytes = [] := by
  constructor
  · intro hempty
    obtain ⟨segments, h⟩ := exists_division bytes
    have hread := h.decodeChars
    rw [String.ofList_eq_empty_iff.mp hempty, List.forall₂_nil_right_iff] at hread
    rw [← h.flatten_eq, hread]
    rfl
  · rintro rfl
    rfl

/-- Only a zero byte is read as the character U+0000. -/
lemma IsReadAs.ne_null {segment : Bytes} {c : Char} (h : IsReadAs segment c)
    (hzero : 0 ∉ segment) : '\x00' ≠ c := by
  rintro rfl
  unfold IsReadAs at h
  split at h
  · rw [← h] at hzero
    exact hzero (by decide)
  · exact absurd h (by decide)

lemma null_not_mem_of_isReadAs {chars : List Char} (h : List.Forall₂ IsReadAs segments chars)
    (hzero : 0 ∉ segments.flatten) : '\x00' ∉ chars := by
  induction h with
  | nil => exact List.not_mem_nil
  | cons hread _ ih =>
    rw [List.flatten_cons, List.mem_append, not_or] at hzero
    rw [List.mem_cons, not_or]
    exact ⟨hread.ne_null hzero.1, ih hzero.2⟩

theorem null_not_mem_decode (hzero : 0 ∉ bytes) : '\x00' ∉ (decode bytes).toList := by
  obtain ⟨segments, h⟩ := exists_division bytes
  rw [← h.flatten_eq] at hzero
  rw [decode, String.toList_ofList]
  exact null_not_mem_of_isReadAs h.decodeChars hzero

end Parts

/-! ### Well-formed names -/

/-- The bytes are sequences one after another. -/
def IsWellFormed (bytes : Bytes) : Prop :=
  ∃ sequences : List Bytes, (∀ segment ∈ sequences, IsSequence segment) ∧ sequences.flatten = bytes

/-- Well-formed bytes are the UTF-8 forms of texts. -/
theorem isWellFormed_iff {bytes : Bytes} : IsWellFormed bytes ↔ ∃ text, encode text = bytes := by
  constructor
  · rintro ⟨sequences, hsequences, rfl⟩
    induction sequences with
    | nil => exact ⟨"", rfl⟩
    | cons segment sequences ih =>
      obtain ⟨hsegment, hrest⟩ := List.forall_mem_cons.mp hsequences
      obtain ⟨c, rfl⟩ := hsegment.exists_char
      obtain ⟨text, htext⟩ := ih hrest
      refine ⟨String.ofList (c :: text.toList), ?_⟩
      rw [encode, String.toList_ofList, List.flatMap_cons, List.flatten_cons, ← htext]
      rfl
  · rintro ⟨text, rfl⟩
    refine ⟨text.toList.map String.utf8EncodeChar, ?_, rfl⟩
    intro segment hsegment
    obtain ⟨c, -, rfl⟩ := List.mem_map.mp hsegment
    exact isSequence_utf8EncodeChar c

theorem encode_decode_iff {bytes : Bytes} : encode (decode bytes) = bytes ↔ IsWellFormed bytes := by
  rw [isWellFormed_iff]
  constructor
  · exact fun h => ⟨decode bytes, h⟩
  · rintro ⟨text, rfl⟩
    rw [decode_encode]

lemma IsWellFormed.decode_append {bytes : Bytes} (h : IsWellFormed bytes) (rest : Bytes) :
    decode (bytes ++ rest) = decode bytes ++ decode rest := by
  obtain ⟨text, rfl⟩ := isWellFormed_iff.mp h
  rw [decode_encode, decode, encode, decodeChars_flatMap_append, String.ofList_append,
    String.ofList_toList]
  rfl

lemma decode_ascii {c : UInt8} (h : c < 0x80) (bytes rest : Bytes) :
    decode (bytes ++ [c] ++ rest) =
      decode bytes ++ String.singleton (Char.ofNat c.toNat) ++ decode rest := by
  have hrest : StandsApart (c :: rest) := by
    rintro _ ⟨⟩
    exact h
  rw [List.append_assoc, List.singleton_append, ← String.toList_inj, decode,
    decodeChars_append_of_standsApart bytes hrest, decodeChars_cons_of_lt h]
  simp [decode]

end ElfInspect.Utf8
