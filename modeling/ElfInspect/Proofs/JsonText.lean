import ElfInspect.Proofs.JsonGrammar
import ElfInspect.Proofs.OneLine

/-!
# What written JSON says

A value is written as lines, and nested values are indented with the lines that hold them. Joined
by breaks, with any blanks behind each break, the lines of a value are read by the grammar as that
value and nothing else. No line has a break in it, so indenting a text that was joined already comes
to the same.
-/

namespace ElfInspect.Json

open Grammar

mutual

/-- What the grammar is to read. -/
def meaning : Json → Value
  | number value => .natural value
  | string value => .string value
  | array items => .array (itemMeanings items)
  | object members => .object (memberMeanings members)

def itemMeanings : List Json → List Value
  | [] => []
  | item :: items => meaning item :: itemMeanings items

def memberMeanings : List (String × Json) → List (String × Value)
  | [] => []
  | (key, value) :: members => (key, meaning value) :: memberMeanings members

end

/-! ### Joined lines -/

/-- Lines joined by breaks with a padding behind each break. -/
def flow (pad : List Char) (lines : List String) : List Char :=
  ('\n' :: pad).intercalate (lines.map String.toList)

section Flow

variable {pad : List Char} {lines more : List String}

lemma flow_singleton (line : String) : flow pad [line] = line.toList :=
  List.intercalate_singleton

lemma flow_cons (line : String) (h : lines ≠ []) :
    flow pad (line :: lines) = line.toList ++ '\n' :: (pad ++ flow pad lines) := by
  rw [flow, List.map_cons, List.intercalate_cons_of_ne_nil (by simpa using h), List.append_assoc]
  rfl

lemma flow_append (h : lines ≠ []) (hmore : more ≠ []) :
    flow pad (lines ++ more) = flow pad lines ++ '\n' :: (pad ++ flow pad more) := by
  induction lines with
  | nil => exact (h rfl).elim
  | cons line lines ih =>
    cases lines with
    | nil => rw [List.singleton_append, flow_cons line hmore, flow_singleton]
    | cons next lines =>
      rw [List.cons_append, flow_cons line (by simp), flow_cons line (by simp), ih (by simp)]
      simp

lemma flow_startWith (text : String) :
    flow pad (startWith text lines) = text.toList ++ flow pad lines := by
  cases lines with
  | nil => simp [startWith, flow]
  | cons line lines =>
    cases lines with
    | nil => simp [startWith, flow]
    | cons next lines => simp [startWith, flow, List.intercalate_cons_cons]

lemma endWith_ne_nil (text : String) : endWith text lines ≠ [] := by
  unfold endWith
  split <;> simp

lemma flow_endWith (text : String) :
    flow pad (endWith text lines) = flow pad lines ++ text.toList := by
  induction lines with
  | nil => simp [endWith, flow]
  | cons line lines ih =>
    cases lines with
    | nil => simp [endWith, flow_singleton]
    | cons next lines =>
      rw [endWith, flow_cons line (endWith_ne_nil text), ih, flow_cons line (by simp)]
      simp

lemma flow_indent (h : lines ≠ []) :
    flow pad (indent lines) = ' ' :: ' ' :: flow (pad ++ [' ', ' ']) lines := by
  induction lines with
  | nil => exact (h rfl).elim
  | cons line lines ih =>
    cases lines with
    | nil => simp [indent, flow_singleton]
    | cons next lines =>
      have hindent : indent (line :: next :: lines) =
          ("  " ++ line) :: indent (next :: lines) := rfl
      rw [hindent, flow_cons _ (by simp [indent]), ih (by simp), flow_cons line (by simp)]
      simp

lemma separate_ne_nil {block : List String} (blocks : List (List String)) (h : block ≠ []) :
    separate (block :: blocks) ≠ [] := by
  cases blocks with
  | nil => exact h
  | cons next blocks => simp [separate, endWith_ne_nil]

lemma flow_separate {block next : List String} (blocks : List (List String)) (h : next ≠ []) :
    flow pad (separate (block :: next :: blocks)) =
      flow pad block ++ ',' :: '\n' :: (pad ++ flow pad (separate (next :: blocks))) := by
  rw [separate, flow_append (endWith_ne_nil _) (separate_ne_nil blocks h), flow_endWith]
  simp

lemma flow_enclose {block : List String} (left right : String) (blocks : List (List String))
    (h : block ≠ []) :
    flow pad (enclose left right (block :: blocks)) =
      left.toList ++ '\n' :: (pad ++ ' ' :: ' ' ::
        (flow (pad ++ [' ', ' ']) (separate (block :: blocks)) ++
          '\n' :: (pad ++ right.toList))) := by
  have hindent : indent (separate (block :: blocks)) ≠ [] := by
    simpa [indent] using separate_ne_nil blocks h
  rw [enclose, List.cons_append, flow_cons left (by simp),
    flow_append hindent (by simp), flow_indent (separate_ne_nil blocks h), flow_singleton]
  simp

lemma lines_ne_nil (value : Json) : value.lines ≠ [] := by
  cases value with
  | number value => simp [Json.lines]
  | string value => simp [Json.lines]
  | array items => cases items <;> simp [Json.lines, itemBlocks, enclose]
  | object members =>
    cases members with
    | nil => simp [Json.lines, memberBlocks, enclose]
    | cons member members => simp [Json.lines, memberBlocks, enclose]

lemma startWith_ne_nil (text : String) : startWith text lines ≠ [] := by
  cases lines <;> simp [startWith]

lemma toList_render (value : Json) : value.render.toList = flow [] value.lines := by
  rw [render, String.toList_intercalate]
  rfl

end Flow

/-! ### Numbers and strings -/

section Scalars

variable {rest : List Char}

lemma natural_toDigits (n : Nat) : natural (Nat.toDigits 10 n) = n :=
  Nat.ofDigitChars_toDigits (by omega) (by omega)

lemma digits_toDigits (n : Nat) : Digits (Nat.toDigits 10 n) :=
  ⟨Nat.toDigits_ne_nil, fun _ h => Nat.isDigit_of_mem_toDigits (by omega) (by omega) h⟩

lemma whole_toDigits (n : Nat) : Whole (Nat.toDigits 10 n) := by
  refine ⟨digits_toDigits n, ?_⟩
  induction n using Nat.strongRecOn with
  | ind n ih =>
    intro hhead
    rw [Nat.toDigits_eq_if (by omega)] at hhead ⊢
    split_ifs at hhead ⊢ with hlt
    · exact congrArg (· :: []) (Option.some.inj hhead)
    · -- The front of a longer numeral is a numeral itself, and that of zero only if it is short.
      obtain ⟨first, tail, hfront⟩ :=
        List.exists_cons_of_ne_nil (Nat.toDigits_ne_nil (n := n / 10) (b := 10))
      have hfirst : (Nat.toDigits 10 (n / 10)).head? = some '0' := by
        rw [hfront] at hhead ⊢
        exact hhead
      have hzero := congrArg natural (ih (n / 10) (by omega) hfirst)
      rw [natural_toDigits] at hzero
      have hquotient : n / 10 = 0 := hzero
      omega

lemma number_toDigits (n : Nat) : Number (Nat.toDigits 10 n) (Rat.ofInt n) := by
  have hscaled : scaled (signed none (natural (Nat.toDigits 10 n ++ [])))
      (0 - (([] : List Char).length : Int)) = Rat.ofInt n := by
    rw [List.append_nil, natural_toDigits]
    change Rat.ofInt (n * 1) = Rat.ofInt n
    rw [Int.mul_one]
  have hnumber := Number.intro (nofun : (none : Option Bool) ≠ some false) (whole_toDigits n)
    Fraction.absent Exponent.absent
  rw [hscaled] at hnumber
  simpa [sign] using hnumber

lemma codeUnit?_paddedHex :
    ∀ n < 0x20, codeUnit? (Numeral.paddedHex 4 n).toList = some n := by
  decide

lemma spells_escapeChar (char : Char) : Spells (escapeChar char) char := by
  unfold escapeChar
  split
  · exact .escape rfl
  · exact .escape rfl
  · exact .escape rfl
  · exact .escape rfl
  · exact .escape rfl
  · exact .escape rfl
  · exact .escape rfl
  · rename_i hquote hbackslash _ _ _ _ _
    by_cases hcontrol : char.toNat < 0x20
    · have hspells := Spells.unit (codeUnit?_paddedHex char.toNat hcontrol) (by
        simp [isHigh]; omega) (by simp [isLow]; omega)
      rw [Char.ofNat_toNat] at hspells
      rw [if_pos hcontrol]
      exact hspells
    · rw [if_neg hcontrol]
      exact .plain (Nat.le_of_not_lt hcontrol) hquote hbackslash

lemma quoted_flatMap_escapeChar (chars rest : List Char) :
    Quoted (chars.flatMap escapeChar ++ '"' :: rest) chars rest := by
  induction chars with
  | nil => exact .close
  | cons char chars ih =>
    rw [List.flatMap_cons, List.append_assoc]
    exact .char (spells_escapeChar char) ih

lemma toList_quote (text : String) :
    (quote text).toList = '"' :: (text.toList.flatMap escapeChar ++ ['"']) := by
  simp [quote]

end Scalars

/-! ### Values -/

lemma blanks_nil : Blanks [] :=
  List.forall_mem_nil _

lemma blanks_break {pad : List Char} (hpad : Blanks pad) : Blanks ('\n' :: pad) :=
  List.forall_mem_cons.mpr ⟨rfl, hpad⟩

lemma blanks_indent {pad : List Char} (hpad : Blanks pad) : Blanks (pad ++ [' ', ' ']) :=
  List.forall_mem_append.mpr ⟨hpad, by simp [isBlank]⟩

lemma reads_quote (text : String) (rest : List Char) :
    Reads ((quote text).toList ++ rest) (.value (.string text)) rest := by
  have hreads := Reads.string rfl (quoted_flatMap_escapeChar text.toList rest)
  rw [String.ofList_toList] at hreads
  simpa [toList_quote] using hreads

/-- A key with the colon and the blank behind it. -/
lemma keyed_quote (key : String) (rest : List Char) :
    Keyed ((quote key ++ ": ").toList ++ rest) key rest := by
  have hkey :
      Keyed ('"' :: (key.toList.flatMap escapeChar ++ '"' :: ([] ++ ':' :: ([' '] ++ rest))))
        (String.ofList key.toList) rest :=
    .intro (quoted_flatMap_escapeChar key.toList _) blanks_nil (by simp [Blanks, isBlank])
  rw [String.ofList_toList] at hkey
  simpa [toList_quote] using hkey

mutual

/-- The lines of a value read as the value, whatever stands behind them. -/
theorem reads_lines (value : Json) (pad rest : List Char) (hpad : Blanks pad) :
    Reads (flow pad value.lines ++ rest) (.value value.meaning) rest := by
  match value with
  | .number value =>
    rw [Json.lines, flow_singleton, Numeral.toList_decimal]
    exact .number rfl (number_toDigits value)
  | .string text =>
    rw [Json.lines, flow_singleton]
    exact reads_quote text rest
  | .array [] =>
    refine .emptyArray ?_ blanks_nil
    simp [Json.lines, itemBlocks, enclose, flow_singleton]
  | .array (item :: items) =>
    have hbody := reads_itemBlocks (item :: items) (pad ++ [' ', ' ']) ('\n' :: pad) rest
      (List.cons_ne_nil _ _) (blanks_indent hpad) (blanks_break hpad)
    rw [Json.lines, itemBlocks, flow_enclose _ _ _ item.lines_ne_nil]
    refine .array ?_ (blanks_break (blanks_indent hpad)) hbody
    simp [itemBlocks]
  | .object [] =>
    refine .emptyObject ?_ blanks_nil
    simp [Json.lines, memberBlocks, enclose, flow_singleton]
  | .object (member :: members) =>
    have hbody := reads_memberBlocks (member :: members) (pad ++ [' ', ' ']) ('\n' :: pad) rest
      (List.cons_ne_nil _ _) (blanks_indent hpad) (blanks_break hpad)
    rw [Json.lines, memberBlocks, flow_enclose _ _ _ (startWith_ne_nil _)]
    refine .object ?_ (blanks_break (blanks_indent hpad)) hbody
    simp [memberBlocks]

theorem reads_itemBlocks (items : List Json) (pad blanks rest : List Char) (hne : items ≠ [])
    (hpad : Blanks pad) (hblanks : Blanks blanks) :
    Reads (flow pad (separate (itemBlocks items)) ++ (blanks ++ ']' :: rest))
      (.items (itemMeanings items)) rest := by
  match items with
  | [] => exact (hne rfl).elim
  | [item] => exact .lastItem (reads_lines item pad _ hpad) hblanks
  | item :: next :: items =>
    have hitem := reads_lines item pad ([] ++ ',' :: ('\n' :: pad ++
      (flow pad (separate (itemBlocks (next :: items))) ++ (blanks ++ ']' :: rest)))) hpad
    have hitems := reads_itemBlocks (next :: items) pad blanks rest (List.cons_ne_nil _ _)
      hpad hblanks
    have hread := Reads.nextItem hitem blanks_nil (blanks_break hpad) hitems
    rw [itemBlocks, itemBlocks, flow_separate _ next.lines_ne_nil]
    simpa [itemBlocks, itemMeanings] using hread

theorem reads_memberBlocks (members : List (String × Json)) (pad blanks rest : List Char)
    (hne : members ≠ []) (hpad : Blanks pad) (hblanks : Blanks blanks) :
    Reads (flow pad (separate (memberBlocks members)) ++ (blanks ++ '\x7d' :: rest))
      (.members (memberMeanings members)) rest := by
  match members with
  | [] => exact (hne rfl).elim
  | [(key, value)] =>
    have hvalue := reads_lines value pad (blanks ++ '\x7d' :: rest) hpad
    have hread := Reads.lastMember (keyed_quote key _) hvalue hblanks
    simpa [memberBlocks, memberMeanings, separate, flow_startWith] using hread
  | (key, value) :: next :: members =>
    have hvalue := reads_lines value pad ([] ++ ',' :: ('\n' :: pad ++
      (flow pad (separate (memberBlocks (next :: members))) ++ (blanks ++ '\x7d' :: rest)))) hpad
    have hmembers := reads_memberBlocks (next :: members) pad blanks rest (List.cons_ne_nil _ _)
      hpad hblanks
    have hread := Reads.nextMember (keyed_quote key _) hvalue blanks_nil (blanks_break hpad)
      hmembers
    rw [memberBlocks, memberBlocks, flow_separate _ (startWith_ne_nil _), flow_startWith]
    simpa [memberBlocks, memberMeanings] using hread

end

theorem reads_render (value : Json) :
    Reads value.render.toList (.value value.meaning) [] := by
  have hreads := reads_lines value [] [] blanks_nil
  rwa [List.append_nil, ← toList_render] at hreads

/-- A written value with a break behind it says this value and no other one. -/
theorem means_render_iff (value : Json) (found : Value) :
    Means (value.render ++ "\n").toList found ↔ found = value.meaning := by
  have hmeans : Means (value.render ++ "\n").toList value.meaning := by
    have htext : (value.render ++ "\n").toList = [] ++ (flow [] value.lines ++ ['\n']) := by
      rw [String.toList_append, toList_render]
      rfl
    exact ⟨_, _, _, htext, blanks_nil, reads_lines value [] _ blanks_nil,
      blanks_break blanks_nil⟩
  constructor
  · intro hfound
    exact hfound.unique hmeans
  · rintro rfl
    exact hmeans

/-! ### Lines without breaks -/

/-- The lines have no breaks in them. -/
def Unbroken (lines : List String) : Prop :=
  ∀ line ∈ lines, OneLine line

section Breaks

variable {lines more : List String}

lemma unbroken_singleton {line : String} (h : OneLine line) : Unbroken [line] :=
  List.forall_mem_singleton.mpr h

lemma Unbroken.append (h : Unbroken lines) (hmore : Unbroken more) : Unbroken (lines ++ more) :=
  List.forall_mem_append.mpr ⟨h, hmore⟩

lemma Unbroken.startWith {text : String} (h : Unbroken lines) (htext : OneLine text) :
    Unbroken (Json.startWith text lines) := by
  cases lines with
  | nil => exact unbroken_singleton htext
  | cons line lines =>
    obtain ⟨hline, hlines⟩ := List.forall_mem_cons.mp h
    exact List.forall_mem_cons.mpr ⟨by simp [htext, hline], hlines⟩

lemma Unbroken.endWith {text : String} (h : Unbroken lines) (htext : OneLine text) :
    Unbroken (Json.endWith text lines) := by
  induction lines with
  | nil => exact unbroken_singleton htext
  | cons line lines ih =>
    obtain ⟨hline, hlines⟩ := List.forall_mem_cons.mp h
    cases lines with
    | nil => exact unbroken_singleton (by simp [htext, hline])
    | cons next lines => exact List.forall_mem_cons.mpr ⟨hline, ih hlines⟩

lemma Unbroken.indent (h : Unbroken lines) : Unbroken (Json.indent lines) := by
  intro line hline
  obtain ⟨line, hmem, rfl⟩ := List.mem_map.mp hline
  exact oneLine_append.mpr ⟨by decide, h line hmem⟩

lemma unbroken_separate {blocks : List (List String)} (h : ∀ block ∈ blocks, Unbroken block) :
    Unbroken (separate blocks) := by
  induction blocks with
  | nil => exact List.forall_mem_nil _
  | cons block blocks ih =>
    obtain ⟨hblock, hblocks⟩ := List.forall_mem_cons.mp h
    cases blocks with
    | nil => exact hblock
    | cons next blocks => exact (hblock.endWith (by decide)).append (ih hblocks)

lemma unbroken_enclose {left right : String} {blocks : List (List String)}
    (hleft : OneLine left) (hright : OneLine right)
    (h : ∀ block ∈ blocks, Unbroken block) : Unbroken (enclose left right blocks) := by
  cases blocks with
  | nil => exact unbroken_singleton (by simp [hleft, hright])
  | cons block blocks =>
    have hopened : Unbroken (left :: Json.indent (separate (block :: blocks))) :=
      List.forall_mem_cons.mpr ⟨hleft, (unbroken_separate h).indent⟩
    exact hopened.append (unbroken_singleton hright)

lemma break_not_mem_escapeChar (char : Char) : '\n' ∉ escapeChar char := by
  unfold escapeChar
  split
  · decide
  · decide
  · decide
  · decide
  · decide
  · decide
  · decide
  · rename_i _ _ _ _ hbreak _ _
    by_cases hcontrol : char.toNat < 0x20
    · have hdigits : '\n' ∉ (Numeral.paddedHex 4 char.toNat).toList :=
        Numeral.oneLine_paddedHex 4 char.toNat
      rw [if_pos hcontrol]
      simp [hdigits]
    · rw [if_neg hcontrol, List.mem_singleton]
      exact fun h => hbreak h.symm

@[simp] lemma oneLine_quote (text : String) : OneLine (quote text) := by
  simp [OneLine, toList_quote, break_not_mem_escapeChar]

mutual

theorem unbroken_lines (value : Json) : Unbroken value.lines := by
  match value with
  | .number value => exact unbroken_singleton (Numeral.oneLine_decimal value)
  | .string text => exact unbroken_singleton (oneLine_quote text)
  | .array items =>
    exact unbroken_enclose (by decide) (by decide) (unbroken_itemBlocks items)
  | .object members =>
    exact unbroken_enclose (by decide) (by decide) (unbroken_memberBlocks members)

theorem unbroken_itemBlocks (items : List Json) : ∀ block ∈ itemBlocks items, Unbroken block := by
  match items with
  | [] => exact List.forall_mem_nil _
  | item :: items =>
    exact List.forall_mem_cons.mpr ⟨unbroken_lines item, unbroken_itemBlocks items⟩

theorem unbroken_memberBlocks (members : List (String × Json)) :
    ∀ block ∈ memberBlocks members, Unbroken block := by
  match members with
  | [] => exact List.forall_mem_nil _
  | (key, value) :: members =>
    have hkey : OneLine (quote key ++ ": ") :=
      oneLine_append.mpr ⟨oneLine_quote key, by decide⟩
    exact List.forall_mem_cons.mpr
      ⟨(unbroken_lines value).startWith hkey, unbroken_memberBlocks members⟩

end

/-- A text with every line after the first moved by two blanks. -/
def nested (text : String) : String :=
  String.ofList (text.toList.flatMap fun char =>
    if char = '\n' then ['\n', ' ', ' '] else [char])

lemma flatMap_of_break_not_mem {text : List Char} (h : '\n' ∉ text) :
    (text.flatMap fun char => if char = '\n' then ['\n', ' ', ' '] else [char]) = text := by
  induction text with
  | nil => rfl
  | cons char text ih =>
    rw [List.mem_cons, not_or] at h
    rw [List.flatMap_cons, ih h.2, if_neg (Ne.symm h.1)]
    rfl

/-- The lines of a value that is held by another one are those of the value by itself, moved. -/
lemma toList_nested_render (value : Json) :
    (nested value.render).toList = flow [' ', ' '] value.lines := by
  have hjoined : ∀ lines, Unbroken lines →
      ((flow [] lines).flatMap fun char => if char = '\n' then ['\n', ' ', ' '] else [char]) =
        flow [' ', ' '] lines := by
    intro lines hlines
    induction lines with
    | nil => rfl
    | cons line lines ih =>
      obtain ⟨hline, hlines⟩ := List.forall_mem_cons.mp hlines
      cases lines with
      | nil => rw [flow_singleton, flow_singleton, flatMap_of_break_not_mem hline]
      | cons next lines =>
        rw [flow_cons line (by simp), flow_cons line (by simp), List.flatMap_append,
          flatMap_of_break_not_mem hline, List.flatMap_cons, List.nil_append, ih hlines]
        rfl
  rw [nested, String.toList_ofList, toList_render]
  exact hjoined value.lines value.unbroken_lines

end Breaks

end ElfInspect.Json
