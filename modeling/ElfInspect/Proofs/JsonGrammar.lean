import ElfInspect.Json.Basic
import Mathlib.Data.List.TakeWhile

/-!
# The grammar of JSON

What a text says as JSON, with all that the grammar allows and without regard to how reports
are written. The rules relate a text, what is read off its front, and the rest. A text has at
most one reading: each rule is told by the first character, and where a run of characters of one
kind ends is told by the first one of another kind.
-/

namespace ElfInspect.Json.Grammar

/-- What a text can say. -/
inductive Value where
  | null
  | boolean (value : Bool)
  | number (value : Rat)
  | string (value : String)
  | array (items : List Value)
  | object (members : List (String × Value))

/-- The number of a natural number's value, whatever its size. -/
def Value.natural (n : Nat) : Value :=
  number (Rat.ofInt n)

/-! ### Blanks and digits -/

def isBlank (char : Char) : Bool :=
  char == ' ' || char == '\t' || char == '\n' || char == '\r'

def Blanks (text : List Char) : Prop :=
  ∀ char ∈ text, isBlank char = true

def Digits (text : List Char) : Prop :=
  text ≠ [] ∧ ∀ char ∈ text, char.isDigit = true

/-- A text that does not begin with a character of a kind. -/
def Avoids (kind : Char → Bool) (text : List Char) : Prop :=
  ∀ char ∈ text.head?, kind char = false

section Runs

variable {kind : Char → Bool} {run run' rest rest' : List Char}

lemma avoids_cons {char : Char} (h : kind char = false) : Avoids kind (char :: rest) := by
  rintro _ ⟨⟩
  exact h

lemma Avoids.ne_cons {char : Char} (h : Avoids kind rest) (hchar : kind char = true) :
    rest ≠ char :: rest' := by
  rintro rfl
  rw [h char rfl] at hchar
  cases hchar

lemma Avoids.of_imp {kind' : Char → Bool} (h : Avoids kind rest)
    (himp : ∀ char, kind char = false → kind' char = false) : Avoids kind' rest :=
  fun char hchar => himp char (h char hchar)

lemma takeWhile_of_avoids (h : Avoids kind rest) : rest.takeWhile kind = [] := by
  cases rest with
  | nil => rfl
  | cons char rest => exact List.takeWhile_cons_of_neg (by simp [h char rfl])

/-- A run of one kind ends where the kind ends. -/
lemma run_unique (hrun : ∀ char ∈ run, kind char = true) (hrun' : ∀ char ∈ run', kind char = true)
    (hrest : Avoids kind rest) (hrest' : Avoids kind rest')
    (h : run ++ rest = run' ++ rest') : run = run' ∧ rest = rest' := by
  have htake := congrArg (List.takeWhile kind) h
  rw [List.takeWhile_append_of_pos hrun, List.takeWhile_append_of_pos hrun',
    takeWhile_of_avoids hrest, takeWhile_of_avoids hrest', List.append_nil,
    List.append_nil] at htake
  subst htake
  exact ⟨rfl, List.append_cancel_left h⟩

lemma Digits.avoids (hrun : Digits run) (h : ∀ char, char.isDigit = true → kind char = false) :
    Avoids kind (run ++ rest) := by
  obtain ⟨hne, hdigits⟩ := hrun
  obtain ⟨char, tail, rfl⟩ := List.exists_cons_of_ne_nil hne
  exact avoids_cons (h char (hdigits char List.mem_cons_self))

end Runs

/-! ### Numbers -/

/-- The number that decimal digits stand for. -/
def natural (digits : List Char) : Nat :=
  Nat.ofDigitChars 10 digits 0

/-- A sign, if there is one; true stands for a minus. -/
def sign : Option Bool → List Char
  | none => []
  | some false => ['+']
  | some true => ['-']

def signed : Option Bool → Nat → Int
  | some true, n => -n
  | _, n => n

/-- A number times a power of ten. -/
def scaled (significand : Int) : Int → Rat
  | .ofNat power => Rat.ofInt (significand * (Nat.pow 10 power : Nat))
  | .negSucc power => mkRat significand (Nat.pow 10 (power + 1))

/-- The digits before the point; the first one is a zero only if it is the only one. -/
structure Whole (text : List Char) : Prop where
  digits : Digits text
  unpadded : text.head? = some '0' → text = ['0']

/-- The digits after the point, if there are any. -/
inductive Fraction : List Char → List Char → Prop
  | absent : Fraction [] []
  | present {digits : List Char} (h : Digits digits) : Fraction ('.' :: digits) digits

inductive Exponent : List Char → Int → Prop
  | absent : Exponent [] 0
  | present {mark : Char} {digits : List Char} (hmark : mark = 'e' ∨ mark = 'E')
      (sign? : Option Bool) (h : Digits digits) :
      Exponent (mark :: (sign sign? ++ digits)) (signed sign? (natural digits))

inductive Number : List Char → Rat → Prop
  | intro {minus? : Option Bool} {whole fraction decimals exponent : List Char} {power : Int}
      (hminus : minus? ≠ some false) (hwhole : Whole whole) (hfraction : Fraction fraction decimals)
      (hexponent : Exponent exponent power) :
      Number (sign minus? ++ (whole ++ (fraction ++ exponent)))
        (scaled (signed minus? (natural (whole ++ decimals))) (power - decimals.length))

def isPoint (char : Char) : Bool :=
  char == '.'

def isMark (char : Char) : Bool :=
  char == 'e' || char == 'E'

/-- The characters that a number could go on with. -/
def isNumeric (char : Char) : Bool :=
  char.isDigit || isPoint char || isMark char

section Numbers

variable {rest rest' : List Char}

def isSign (char : Char) : Bool :=
  char == '+' || char == '-'

lemma isSign_of_isDigit (char : Char) (h : char.isDigit = true) : isSign char = false := by
  unfold isSign
  rw [Bool.or_eq_false_iff, beq_eq_false_iff_ne, beq_eq_false_iff_ne]
  constructor
  · rintro rfl
    cases h
  · rintro rfl
    cases h

lemma sign_injective {sign? sign?' : Option Bool} (h : sign sign? = sign sign?') :
    sign? = sign?' := by
  rcases sign? with _ | _ | _ <;> rcases sign?' with _ | _ | _ <;> simp [sign] at h ⊢

lemma isSign_of_mem_sign {sign? : Option Bool} (char : Char) (h : char ∈ sign sign?) :
    isSign char = true := by
  rcases sign? with _ | _ | _
  · cases h
  · rw [List.mem_singleton.mp h]
    rfl
  · rw [List.mem_singleton.mp h]
    rfl

lemma sign_unique {sign? sign?' : Option Bool} (hrest : Avoids isSign rest)
    (hrest' : Avoids isSign rest') (h : sign sign? ++ rest = sign sign?' ++ rest') :
    sign? = sign?' ∧ rest = rest' := by
  obtain ⟨hsign, hrests⟩ := run_unique isSign_of_mem_sign isSign_of_mem_sign hrest hrest' h
  exact ⟨sign_injective hsign, hrests⟩

lemma digits_unique {digits digits' : List Char} (hdigits : Digits digits)
    (hdigits' : Digits digits') (hrest : Avoids Char.isDigit rest)
    (hrest' : Avoids Char.isDigit rest') (h : digits ++ rest = digits' ++ rest') :
    digits = digits' ∧ rest = rest' :=
  run_unique hdigits.2 hdigits'.2 hrest hrest' h

lemma avoids_exponent {exponent : List Char} {power : Int} {kind : Char → Bool}
    (h : Exponent exponent power) (he : kind 'e' = false) (hE : kind 'E' = false)
    (hrest : Avoids kind rest) : Avoids kind (exponent ++ rest) := by
  cases h with
  | absent => exact hrest
  | present hmark =>
    rcases hmark with rfl | rfl
    · exact avoids_cons he
    · exact avoids_cons hE

lemma avoids_fraction {fraction decimals : List Char} {kind : Char → Bool}
    (h : Fraction fraction decimals) (hpoint : kind '.' = false) (hrest : Avoids kind rest) :
    Avoids kind (fraction ++ rest) := by
  cases h with
  | absent => exact hrest
  | present => exact avoids_cons hpoint

lemma Fraction.unique {fraction fraction' decimals decimals' : List Char}
    (h : Fraction fraction decimals) (h' : Fraction fraction' decimals')
    (hrest : Avoids Char.isDigit rest) (hrest' : Avoids Char.isDigit rest')
    (hpoint : Avoids isPoint rest) (hpoint' : Avoids isPoint rest')
    (heq : fraction ++ rest = fraction' ++ rest') : decimals = decimals' ∧ rest = rest' := by
  cases h with
  | absent =>
    cases h' with
    | absent => exact ⟨rfl, heq⟩
    | present => exact (hpoint.ne_cons rfl heq).elim
  | present hdigits =>
    cases h' with
    | absent => exact (hpoint'.ne_cons rfl heq.symm).elim
    | present hdigits' => exact digits_unique hdigits hdigits' hrest hrest' (List.cons.inj heq).2

lemma Exponent.unique {exponent exponent' : List Char} {power power' : Int}
    (h : Exponent exponent power) (h' : Exponent exponent' power')
    (hrest : Avoids Char.isDigit rest) (hrest' : Avoids Char.isDigit rest')
    (hmark : Avoids isMark rest) (hmark' : Avoids isMark rest')
    (heq : exponent ++ rest = exponent' ++ rest') : power = power' ∧ rest = rest' := by
  have hisMark : ∀ {mark}, mark = 'e' ∨ mark = 'E' → isMark mark = true := by
    rintro mark (rfl | rfl) <;> rfl
  cases h with
  | absent =>
    cases h' with
    | absent => exact ⟨rfl, heq⟩
    | present hfound => exact (hmark.ne_cons (hisMark hfound) heq).elim
  | present hfound sign? hdigits =>
    cases h' with
    | absent => exact (hmark'.ne_cons (hisMark hfound) heq.symm).elim
    | present hfound' sign?' hdigits' =>
      have htail := (List.cons.inj heq).2
      simp only [List.append_eq, List.append_assoc] at htail
      obtain ⟨rfl, hafter⟩ := sign_unique (hdigits.avoids isSign_of_isDigit)
        (hdigits'.avoids isSign_of_isDigit) htail
      obtain ⟨rfl, hrests⟩ := digits_unique hdigits hdigits' hrest hrest' hafter
      exact ⟨rfl, hrests⟩

/-- Where nothing follows that a number could go on with, it ends in one way. -/
theorem Number.unique {text text' : List Char} {value value' : Rat} (h : Number text value)
    (h' : Number text' value') (hrest : Avoids isNumeric rest) (hrest' : Avoids isNumeric rest')
    (heq : text ++ rest = text' ++ rest') : value = value' ∧ rest = rest' := by
  obtain ⟨-, hwhole, hfraction, hexponent⟩ := h
  obtain ⟨-, hwhole', hfraction', hexponent'⟩ := h'
  have hkinds : ∀ {rest}, Avoids isNumeric rest →
      Avoids Char.isDigit rest ∧ Avoids isPoint rest ∧ Avoids isMark rest := by
    intro rest h
    refine ⟨h.of_imp ?_, h.of_imp ?_, h.of_imp ?_⟩ <;> simp +contextual [isNumeric]
  obtain ⟨hdigit, hpoint, hmark⟩ := hkinds hrest
  obtain ⟨hdigit', hpoint', hmark'⟩ := hkinds hrest'
  have hdigit₁ := avoids_exponent hexponent rfl rfl hdigit
  have hdigit₁' := avoids_exponent hexponent' rfl rfl hdigit'
  simp only [List.append_assoc] at heq
  obtain ⟨rfl, hunsigned⟩ := sign_unique (hwhole.digits.avoids isSign_of_isDigit)
    (hwhole'.digits.avoids isSign_of_isDigit) heq
  obtain ⟨rfl, hfractions⟩ := digits_unique hwhole.digits hwhole'.digits
    (avoids_fraction hfraction rfl hdigit₁) (avoids_fraction hfraction' rfl hdigit₁') hunsigned
  obtain ⟨rfl, hexponents⟩ := hfraction.unique hfraction' hdigit₁ hdigit₁'
    (avoids_exponent hexponent rfl rfl hpoint) (avoids_exponent hexponent' rfl rfl hpoint')
    hfractions
  obtain ⟨rfl, hrests⟩ := hexponent.unique hexponent' hdigit hdigit' hmark hmark' hexponents
  exact ⟨rfl, hrests⟩

end Numbers

/-! ### Strings -/

def hexDigit? (char : Char) : Option Nat :=
  if '0' ≤ char ∧ char ≤ '9' then some (char.toNat - '0'.toNat)
  else if 'a' ≤ char ∧ char ≤ 'f' then some (char.toNat - 'a'.toNat + 10)
  else if 'A' ≤ char ∧ char ≤ 'F' then some (char.toNat - 'A'.toNat + 10)
  else none

/-- The number that four hexadecimal digits stand for. -/
def codeUnit? : List Char → Option Nat
  | [a, b, c, d] => do
    return (((← hexDigit? a) * 16 + (← hexDigit? b)) * 16 + (← hexDigit? c)) * 16 +
      (← hexDigit? d)
  | _ => none

/-- What may stand behind a backslash, other than the number of a code unit. -/
def escapes : List (Char × Char) := [
  ('"', '"'), ('\\', '\\'), ('/', '/'), ('b', '\x08'), ('f', '\x0c'), ('n', '\n'), ('r', '\r'),
  ('t', '\t')]

def isHigh (unit : Nat) : Bool :=
  0xd800 ≤ unit ∧ unit < 0xdc00

def isLow (unit : Nat) : Bool :=
  0xdc00 ≤ unit ∧ unit < 0xe000

/-- How a character can stand between quotes. A half of a pair of code units without the other
half stands for none. -/
inductive Spells : List Char → Char → Prop
  | plain {char : Char} (hcontrol : 0x20 ≤ char.toNat) (hquote : char ≠ '"')
      (hbackslash : char ≠ '\\') : Spells [char] char
  | escape {letter char : Char} (h : escapes.lookup letter = some char) :
      Spells ['\\', letter] char
  | unit {digits : List Char} {unit : Nat} (h : codeUnit? digits = some unit)
      (hhigh : isHigh unit = false) (hlow : isLow unit = false) :
      Spells ('\\' :: 'u' :: digits) (Char.ofNat unit)
  | pair {digits digits' : List Char} {high low : Nat} (h : codeUnit? digits = some high)
      (hhigh : isHigh high = true) (h' : codeUnit? digits' = some low)
      (hlow : isLow low = true) :
      Spells ('\\' :: 'u' :: (digits ++ '\\' :: 'u' :: digits'))
        (Char.ofNat (0x10000 + (high - 0xd800) * 0x400 + (low - 0xdc00)))

/-- The characters up to the closing quote, and the rest behind it. -/
inductive Quoted : List Char → List Char → List Char → Prop
  | close {rest : List Char} : Quoted ('"' :: rest) [] rest
  | char {spelling text chars rest : List Char} {char : Char} (hchar : Spells spelling char)
      (htext : Quoted text chars rest) : Quoted (spelling ++ text) (char :: chars) rest

section Strings

variable {text text' rest rest' : List Char}

lemma length_of_codeUnit? {digits : List Char} {unit : Nat} (h : codeUnit? digits = some unit) :
    digits.length = 4 := by
  unfold codeUnit? at h
  split at h
  · rfl
  · cases h

lemma codeUnit?_unique {digits digits' : List Char} {unit unit' : Nat}
    (h : codeUnit? digits = some unit) (h' : codeUnit? digits' = some unit')
    (heq : digits ++ rest = digits' ++ rest') : unit = unit' ∧ rest = rest' := by
  have hlength : digits.length = digits'.length := by
    rw [length_of_codeUnit? h, length_of_codeUnit? h']
  obtain ⟨rfl, hrests⟩ := List.append_inj heq hlength
  rw [h, Option.some_inj] at h'
  exact ⟨h', hrests⟩

lemma lookup_escapes_ne {char : Char} : escapes.lookup 'u' ≠ some char :=
  nofun

lemma Spells.unique {spelling spelling' : List Char} {char char' : Char}
    (h : Spells spelling char) (h' : Spells spelling' char')
    (heq : spelling ++ rest = spelling' ++ rest') : char = char' ∧ rest = rest' := by
  cases h with
  | plain _ _ hbackslash =>
    cases h' with
    | plain =>
      exact List.cons.inj heq
    | escape | unit | pair => exact (hbackslash (List.cons.inj heq).1).elim
  | escape hescape =>
    cases h' with
    | plain _ _ hbackslash => exact (hbackslash (List.cons.inj heq).1.symm).elim
    | escape hescape' =>
      obtain ⟨rfl, hrests⟩ := List.cons.inj (List.cons.inj heq).2
      rw [hescape, Option.some_inj] at hescape'
      exact ⟨hescape', hrests⟩
    | unit | pair =>
      obtain ⟨rfl, -⟩ := List.cons.inj (List.cons.inj heq).2
      exact (lookup_escapes_ne hescape).elim
  | unit hunit hhigh =>
    cases h' with
    | plain _ _ hbackslash => exact (hbackslash (List.cons.inj heq).1.symm).elim
    | escape hescape' =>
      obtain ⟨rfl, -⟩ := List.cons.inj (List.cons.inj heq).2
      exact (lookup_escapes_ne hescape').elim
    | unit hunit' =>
      obtain ⟨rfl, hrests⟩ := codeUnit?_unique hunit hunit' (List.cons.inj (List.cons.inj heq).2).2
      exact ⟨rfl, hrests⟩
    | pair hunit' hhigh' =>
      have hdigits := (List.cons.inj (List.cons.inj heq).2).2
      simp only [List.append_eq, List.append_assoc] at hdigits
      obtain ⟨rfl, -⟩ := codeUnit?_unique hunit hunit' hdigits
      rw [hhigh] at hhigh'
      cases hhigh'
  | pair hunit hhigh hunit₂ =>
    cases h' with
    | plain _ _ hbackslash => exact (hbackslash (List.cons.inj heq).1.symm).elim
    | escape hescape' =>
      obtain ⟨rfl, -⟩ := List.cons.inj (List.cons.inj heq).2
      exact (lookup_escapes_ne hescape').elim
    | unit hunit' hhigh' =>
      have hdigits := (List.cons.inj (List.cons.inj heq).2).2
      simp only [List.append_eq, List.append_assoc] at hdigits
      obtain ⟨rfl, -⟩ := codeUnit?_unique hunit hunit' hdigits
      rw [hhigh] at hhigh'
      cases hhigh'
    | pair hunit' _ hunit₂' =>
      have hdigits := (List.cons.inj (List.cons.inj heq).2).2
      simp only [List.append_eq, List.append_assoc] at hdigits
      obtain ⟨rfl, hpair⟩ := codeUnit?_unique hunit hunit' hdigits
      obtain ⟨rfl, hrests⟩ := codeUnit?_unique hunit₂ hunit₂'
        (List.cons.inj (List.cons.inj hpair).2).2
      exact ⟨rfl, hrests⟩

lemma Spells.not_quote {spelling : List Char} {char : Char} (h : Spells spelling char) :
    spelling ++ rest ≠ '"' :: rest' := by
  cases h with
  | plain _ hquote =>
    intro heq
    exact hquote (List.cons.inj heq).1
  | escape => exact nofun
  | unit => exact nofun
  | pair => exact nofun

theorem Quoted.unique {chars chars' : List Char} (h : Quoted text chars rest)
    (h' : Quoted text' chars' rest') (heq : text = text') : chars = chars' ∧ rest = rest' := by
  induction h generalizing text' chars' with
  | close =>
    cases h' with
    | close =>
      exact ⟨rfl, (List.cons.inj heq).2⟩
    | char hchar' => exact (hchar'.not_quote heq.symm).elim
  | char hchar htext ih =>
    cases h' with
    | close => exact (hchar.not_quote heq).elim
    | char hchar' htext' =>
      obtain ⟨rfl, htexts⟩ := hchar.unique hchar' heq
      obtain ⟨rfl, hrests⟩ := ih htext' htexts
      exact ⟨rfl, hrests⟩

end Strings

/-! ### Values -/

/-- What is read as a whole: a value, or what follows an opening bracket up to the closing one. -/
inductive Phrase where
  | value (value : Value)
  | items (items : List Value)
  | members (members : List (String × Value))

def word : Bool → List Char
  | true => ['t', 'r', 'u', 'e']
  | false => ['f', 'a', 'l', 's', 'e']

/-- A key and a colon stand in front of the rest. -/
inductive Keyed : List Char → String → List Char → Prop
  | intro {body chars blanks blanks' rest : List Char}
      (hkey : Quoted body chars (blanks ++ ':' :: (blanks' ++ rest))) (hblanks : Blanks blanks)
      (hblanks' : Blanks blanks') : Keyed ('"' :: body) (String.ofList chars) rest

/-- The front of the first text says what the phrase says, and the second text is the rest. -/
inductive Reads : List Char → Phrase → List Char → Prop
  | null {text rest : List Char} (htext : text = 'n' :: 'u' :: 'l' :: 'l' :: rest) :
      Reads text (.value .null) rest
  | boolean {text rest : List Char} {value : Bool} (htext : text = word value ++ rest) :
      Reads text (.value (.boolean value)) rest
  | number {text number rest : List Char} {value : Rat} (htext : text = number ++ rest)
      (hnumber : Number number value) : Reads text (.value (.number value)) rest
  | string {text body chars rest : List Char} (htext : text = '"' :: body)
      (hbody : Quoted body chars rest) : Reads text (.value (.string (String.ofList chars))) rest
  | emptyArray {text blanks rest : List Char} (htext : text = '[' :: (blanks ++ ']' :: rest))
      (hblanks : Blanks blanks) : Reads text (.value (.array [])) rest
  | array {text blanks body rest : List Char} {items : List Value}
      (htext : text = '[' :: (blanks ++ body)) (hblanks : Blanks blanks)
      (hbody : Reads body (.items items) rest) : Reads text (.value (.array items)) rest
  | emptyObject {text blanks rest : List Char}
      (htext : text = '\x7b' :: (blanks ++ '\x7d' :: rest)) (hblanks : Blanks blanks) :
      Reads text (.value (.object [])) rest
  | object {text blanks body rest : List Char} {members : List (String × Value)}
      (htext : text = '\x7b' :: (blanks ++ body)) (hblanks : Blanks blanks)
      (hbody : Reads body (.members members) rest) : Reads text (.value (.object members)) rest
  | lastItem {text blanks rest : List Char} {item : Value}
      (hitem : Reads text (.value item) (blanks ++ ']' :: rest)) (hblanks : Blanks blanks) :
      Reads text (.items [item]) rest
  | nextItem {text blanks blanks' body rest : List Char} {item : Value} {items : List Value}
      (hitem : Reads text (.value item) (blanks ++ ',' :: (blanks' ++ body)))
      (hblanks : Blanks blanks) (hblanks' : Blanks blanks')
      (hitems : Reads body (.items items) rest) : Reads text (.items (item :: items)) rest
  | lastMember {text body blanks rest : List Char} {key : String} {value : Value}
      (hkey : Keyed text key body) (hvalue : Reads body (.value value) (blanks ++ '\x7d' :: rest))
      (hblanks : Blanks blanks) : Reads text (.members [(key, value)]) rest
  | nextMember {text body blanks blanks' body' rest : List Char} {key : String} {value : Value}
      {members : List (String × Value)} (hkey : Keyed text key body)
      (hvalue : Reads body (.value value) (blanks ++ ',' :: (blanks' ++ body')))
      (hblanks : Blanks blanks) (hblanks' : Blanks blanks')
      (hmembers : Reads body' (.members members) rest) :
      Reads text (.members ((key, value) :: members)) rest

/-- A whole text says a value: blanks may stand around it and nothing else. -/
def Means (text : List Char) (value : Value) : Prop :=
  ∃ before body after, text = before ++ body ∧ Blanks before ∧ Reads body (.value value) after ∧
    Blanks after

/-! ### At most one reading -/

/-- What the first character of a value tells. -/
inductive Tag where
  | null
  | boolean
  | number
  | string
  | array
  | object

def Value.tag : Value → Tag
  | null => .null
  | boolean _ => .boolean
  | number _ => .number
  | string _ => .string
  | array _ => .array
  | object _ => .object

def Tag.ofChar? (char : Char) : Option Tag :=
  if char = 'n' then some null
  else if char = 't' ∨ char = 'f' then some boolean
  else if char = '"' then some string
  else if char = '[' then some array
  else if char = '\x7b' then some object
  else if char = '-' ∨ char.isDigit then some number
  else none

/-- The phrases are of one kind, values even with one tag. -/
def Phrase.Alike : Phrase → Phrase → Prop
  | .value first, .value second => first.tag = second.tag
  | .items _, .items _ => True
  | .members _, .members _ => True
  | _, _ => False

section Readings

variable {text text' rest rest' : List Char}

lemma ofChar?_of_isDigit {char : Char} (h : char.isDigit = true) :
    Tag.ofChar? char = some .number := by
  have hne : ∀ other : Char, other.isDigit = false → char ≠ other := by
    rintro other hother rfl
    rw [h] at hother
    cases hother
  simp [Tag.ofChar?, hne, h]

lemma isBlank_iff {char : Char} :
    isBlank char = true ↔ char = ' ' ∨ char = '\t' ∨ char = '\n' ∨ char = '\r' := by
  simp only [isBlank, Bool.or_eq_true, beq_iff_eq, or_assoc]

lemma isBlank_of_ofChar? {char : Char} {tag : Tag} (h : Tag.ofChar? char = some tag) :
    isBlank char = false := by
  rw [Bool.eq_false_iff]
  intro hblank
  rcases isBlank_iff.mp hblank with rfl | rfl | rfl | rfl <;> cases h

lemma Number.lead {number : List Char} {value : Rat} (h : Number number value) :
    ∃ char tail, number = char :: tail ∧ Tag.ofChar? char = some .number := by
  obtain ⟨hminus, hwhole, -, -⟩ := h
  obtain ⟨hne, hdigits⟩ := hwhole.digits
  obtain ⟨char, tail, rfl⟩ := List.exists_cons_of_ne_nil hne
  rename_i minus? _ _ _ _
  rcases minus? with _ | _ | _
  · exact ⟨_, _, rfl, ofChar?_of_isDigit (hdigits char List.mem_cons_self)⟩
  · exact (hminus rfl).elim
  · exact ⟨_, _, rfl, rfl⟩

/-- The first character of a phrase is that of a value, with its tag if the phrase is one. -/
lemma Reads.lead {phrase : Phrase} (h : Reads text phrase rest) :
    ∃ char tail tag, text = char :: tail ∧ Tag.ofChar? char = some tag ∧
      ∀ value, phrase = .value value → value.tag = tag := by
  induction h with
  | null htext => exact ⟨_, _, _, htext, rfl, by rintro _ ⟨⟩; rfl⟩
  | @boolean text rest value htext =>
    cases value with
    | true => exact ⟨_, _, _, htext, rfl, by rintro _ ⟨⟩; rfl⟩
    | false => exact ⟨_, _, _, htext, rfl, by rintro _ ⟨⟩; rfl⟩
  | number htext hnumber =>
    obtain ⟨char, tail, rfl, hchar⟩ := hnumber.lead
    exact ⟨_, _, _, htext, hchar, by rintro _ ⟨⟩; rfl⟩
  | string htext => exact ⟨_, _, _, htext, rfl, by rintro _ ⟨⟩; rfl⟩
  | emptyArray htext | array htext => exact ⟨_, _, _, htext, rfl, by rintro _ ⟨⟩; rfl⟩
  | emptyObject htext | object htext => exact ⟨_, _, _, htext, rfl, by rintro _ ⟨⟩; rfl⟩
  | lastItem _ _ ih | nextItem _ _ _ _ ih =>
    obtain ⟨char, tail, tag, htext, hchar, -⟩ := ih
    exact ⟨_, _, _, htext, hchar, nofun⟩
  | lastMember hkey | nextMember hkey =>
    cases hkey with
    | intro => exact ⟨_, _, _, rfl, rfl, nofun⟩

lemma Reads.avoids_isBlank {phrase : Phrase} (h : Reads text phrase rest) :
    Avoids isBlank text := by
  obtain ⟨char, tail, tag, rfl, hchar, -⟩ := h.lead
  exact avoids_cons (isBlank_of_ofChar? hchar)

lemma Reads.ne_cons {phrase : Phrase} {char : Char} (h : Reads text phrase rest)
    (hchar : Tag.ofChar? char = none) : text ≠ char :: rest' := by
  rintro rfl
  obtain ⟨_, _, tag, htext, hlead, -⟩ := h.lead
  rw [(List.cons.inj htext).1, hlead] at hchar
  cases hchar

lemma Reads.tag_unique {value value' : Value} (h : Reads text (.value value) rest)
    (h' : Reads text (.value value') rest') : value.tag = value'.tag := by
  obtain ⟨char, tail, tag, htext, hchar, htag⟩ := h.lead
  obtain ⟨char', tail', tag', htext', hchar', htag'⟩ := h'.lead
  rw [htag _ rfl, htag' _ rfl]
  rw [htext] at htext'
  rw [(List.cons.inj htext').1, hchar'] at hchar
  exact (Option.some.inj hchar).symm

lemma blanks_unique {blanks blanks' : List Char} (hblanks : Blanks blanks)
    (hblanks' : Blanks blanks') (hrest : Avoids isBlank rest) (hrest' : Avoids isBlank rest')
    (h : blanks ++ rest = blanks' ++ rest') : rest = rest' :=
  (run_unique hblanks hblanks' hrest hrest' h).2

/-- The first character after some blanks. -/
lemma afterBlanks_unique {blanks blanks' : List Char} {char char' : Char}
    (hblanks : Blanks blanks) (hblanks' : Blanks blanks') (hchar : isBlank char = false)
    (hchar' : isBlank char' = false)
    (h : blanks ++ char :: rest = blanks' ++ char' :: rest') : char = char' ∧ rest = rest' :=
  List.cons.inj (blanks_unique hblanks hblanks' (avoids_cons hchar) (avoids_cons hchar') h)

lemma isNumeric_of_isBlank {char : Char} (h : isBlank char = true) : isNumeric char = false := by
  rcases isBlank_iff.mp h with rfl | rfl | rfl | rfl <;> rfl

lemma Blanks.avoids_isNumeric {blanks : List Char} (h : Blanks blanks) :
    Avoids isNumeric blanks :=
  fun char hchar => isNumeric_of_isBlank (h char (List.mem_of_head? hchar))

/-- Neither a blank nor a punctuation mark goes on with a number. -/
lemma avoids_isNumeric {blanks : List Char} {char : Char} (hblanks : Blanks blanks)
    (hchar : isNumeric char = false) : Avoids isNumeric (blanks ++ char :: rest) := by
  cases blanks with
  | nil => exact avoids_cons hchar
  | cons blank blanks =>
    exact avoids_cons (isNumeric_of_isBlank (hblanks blank List.mem_cons_self))

lemma Keyed.unique {key key' : String} (h : Keyed text key rest) (h' : Keyed text' key' rest')
    (hrest : Avoids isBlank rest) (hrest' : Avoids isBlank rest') (heq : text = text') :
    key = key' ∧ rest = rest' := by
  obtain ⟨hkey, hblanks₁, hblanks₂⟩ := h
  obtain ⟨hkey', hblanks₁', hblanks₂'⟩ := h'
  obtain ⟨rfl, hafter⟩ := hkey.unique hkey' (List.cons.inj heq).2
  obtain ⟨-, hcolon⟩ := afterBlanks_unique hblanks₁ hblanks₁' rfl rfl hafter
  exact ⟨rfl, blanks_unique hblanks₂ hblanks₂' hrest hrest' hcolon⟩

/-- What stands behind an opening bracket is closed at once or begins with a value. -/
lemma Reads.ne_closed {phrase : Phrase} {blanks blanks' : List Char} {char : Char}
    (h : Reads text phrase rest) (hblanks : Blanks blanks) (hblanks' : Blanks blanks')
    (hblank : isBlank char = false) (hchar : Tag.ofChar? char = none) :
    blanks ++ text ≠ blanks' ++ char :: rest' := by
  intro heq
  exact h.ne_cons hchar
    (blanks_unique hblanks hblanks' h.avoids_isBlank (avoids_cons hblank) heq)

lemma word_unique {value value' : Bool} (h : word value ++ rest = word value' ++ rest') :
    value = value' ∧ rest = rest' := by
  cases value <;> cases value'
  · exact ⟨rfl, List.append_cancel_left h⟩
  · cases h
  · cases h
  · exact ⟨rfl, List.append_cancel_left h⟩

/-- There is no other reading of the same kind. -/
def Sole (text : List Char) (phrase : Phrase) (rest : List Char) : Prop :=
  ∀ {phrase' rest'}, Reads text phrase' rest' → phrase.Alike phrase' → Avoids isNumeric rest →
    Avoids isNumeric rest' → phrase = phrase' ∧ rest = rest'

/-- A value and the mark behind it. -/
lemma Sole.value_unique {value value' : Value} {blanks blanks' : List Char} {mark mark' : Char}
    (hsole : Sole text (.value value) (blanks ++ mark :: rest))
    (h : Reads text (.value value) (blanks ++ mark :: rest))
    (h' : Reads text (.value value') (blanks' ++ mark' :: rest'))
    (hblanks : Blanks blanks) (hblanks' : Blanks blanks')
    (hmark : isNumeric mark = false ∧ isBlank mark = false)
    (hmark' : isNumeric mark' = false ∧ isBlank mark' = false) :
    value = value' ∧ mark = mark' ∧ rest = rest' := by
  obtain ⟨hvalues, hafter⟩ := hsole h' (h.tag_unique h') (avoids_isNumeric hblanks hmark.1)
    (avoids_isNumeric hblanks' hmark'.1)
  cases hvalues
  exact ⟨rfl, afterBlanks_unique hblanks hblanks' hmark.2 hmark'.2 hafter⟩

section Rules

variable {blanks blanks' body body' : List Char}

lemma sole_null : Sole ('n' :: 'u' :: 'l' :: 'l' :: rest) (.value .null) rest := by
  intro phrase' rest' h' halike _ _
  cases h' with
  | null htext' =>
    have hword : ['n', 'u', 'l', 'l'] ++ rest = ['n', 'u', 'l', 'l'] ++ rest' := htext'
    exact ⟨rfl, List.append_cancel_left hword⟩
  | _ => cases halike

lemma sole_boolean (value : Bool) : Sole (word value ++ rest) (.value (.boolean value)) rest := by
  intro phrase' rest' h' halike _ _
  cases h' with
  | boolean htext' =>
    obtain ⟨rfl, hrests⟩ := word_unique htext'
    exact ⟨rfl, hrests⟩
  | _ => cases halike

lemma sole_number {number : List Char} {value : Rat} (hnumber : Number number value) :
    Sole (number ++ rest) (.value (.number value)) rest := by
  intro phrase' rest' h' halike hrest hrest'
  cases h' with
  | number htext' hnumber' =>
    obtain ⟨rfl, hrests⟩ := hnumber.unique hnumber' hrest hrest' htext'
    exact ⟨rfl, hrests⟩
  | _ => cases halike

lemma sole_string {chars : List Char} (hbody : Quoted body chars rest) :
    Sole ('"' :: body) (.value (.string (String.ofList chars))) rest := by
  intro phrase' rest' h' halike _ _
  cases h' with
  | string htext' hbody' =>
    obtain ⟨rfl, hrests⟩ := hbody.unique hbody' (List.cons.inj htext').2
    exact ⟨rfl, hrests⟩
  | _ => cases halike

lemma sole_emptyArray (hblanks : Blanks blanks) :
    Sole ('[' :: (blanks ++ ']' :: rest)) (.value (.array [])) rest := by
  intro phrase' rest' h' halike _ _
  cases h' with
  | emptyArray htext' hblanks' =>
    exact ⟨rfl, (afterBlanks_unique hblanks hblanks' rfl rfl (List.cons.inj htext').2).2⟩
  | array htext' hblanks' hbody' =>
    exact (hbody'.ne_closed hblanks' hblanks rfl rfl (List.cons.inj htext').2.symm).elim
  | _ => cases halike

lemma sole_array {items : List Value} (hblanks : Blanks blanks)
    (hbody : Reads body (.items items) rest) (hsole : Sole body (.items items) rest) :
    Sole ('[' :: (blanks ++ body)) (.value (.array items)) rest := by
  intro phrase' rest' h' halike hrest hrest'
  cases h' with
  | emptyArray htext' hblanks' =>
    exact (hbody.ne_closed hblanks hblanks' rfl rfl (List.cons.inj htext').2).elim
  | array htext' hblanks' hbody' =>
    obtain rfl := blanks_unique hblanks hblanks' hbody.avoids_isBlank hbody'.avoids_isBlank
      (List.cons.inj htext').2
    obtain ⟨hitems, hrests⟩ := hsole hbody' trivial hrest hrest'
    cases hitems
    exact ⟨rfl, hrests⟩
  | _ => cases halike

lemma sole_emptyObject (hblanks : Blanks blanks) :
    Sole ('\x7b' :: (blanks ++ '\x7d' :: rest)) (.value (.object [])) rest := by
  intro phrase' rest' h' halike _ _
  cases h' with
  | emptyObject htext' hblanks' =>
    exact ⟨rfl, (afterBlanks_unique hblanks hblanks' rfl rfl (List.cons.inj htext').2).2⟩
  | object htext' hblanks' hbody' =>
    exact (hbody'.ne_closed hblanks' hblanks rfl rfl (List.cons.inj htext').2.symm).elim
  | _ => cases halike

lemma sole_object {members : List (String × Value)} (hblanks : Blanks blanks)
    (hbody : Reads body (.members members) rest) (hsole : Sole body (.members members) rest) :
    Sole ('\x7b' :: (blanks ++ body)) (.value (.object members)) rest := by
  intro phrase' rest' h' halike hrest hrest'
  cases h' with
  | emptyObject htext' hblanks' =>
    exact (hbody.ne_closed hblanks hblanks' rfl rfl (List.cons.inj htext').2).elim
  | object htext' hblanks' hbody' =>
    obtain rfl := blanks_unique hblanks hblanks' hbody.avoids_isBlank hbody'.avoids_isBlank
      (List.cons.inj htext').2
    obtain ⟨hmembers, hrests⟩ := hsole hbody' trivial hrest hrest'
    cases hmembers
    exact ⟨rfl, hrests⟩
  | _ => cases halike

lemma sole_lastItem {item : Value} (hitem : Reads text (.value item) (blanks ++ ']' :: rest))
    (hblanks : Blanks blanks) (hsole : Sole text (.value item) (blanks ++ ']' :: rest)) :
    Sole text (.items [item]) rest := by
  intro phrase' rest' h' halike _ _
  cases h' with
  | lastItem hitem' hblanks' =>
    obtain ⟨rfl, -, hrests⟩ :=
      hsole.value_unique hitem hitem' hblanks hblanks' ⟨rfl, rfl⟩ ⟨rfl, rfl⟩
    exact ⟨rfl, hrests⟩
  | nextItem hitem' hblanks' =>
    obtain ⟨-, hmark, -⟩ :=
      hsole.value_unique hitem hitem' hblanks hblanks' ⟨rfl, rfl⟩ ⟨rfl, rfl⟩
    cases hmark
  | _ => cases halike

lemma sole_nextItem {item : Value} {items : List Value}
    (hitem : Reads text (.value item) (blanks ++ ',' :: (blanks' ++ body)))
    (hblanks : Blanks blanks) (hblanks' : Blanks blanks')
    (hitems : Reads body (.items items) rest)
    (hsole : Sole text (.value item) (blanks ++ ',' :: (blanks' ++ body)))
    (hsole' : Sole body (.items items) rest) : Sole text (.items (item :: items)) rest := by
  intro phrase' rest' h' halike hrest hrest'
  cases h' with
  | lastItem hitem' hblanks₁ =>
    obtain ⟨-, hmark, -⟩ :=
      hsole.value_unique hitem hitem' hblanks hblanks₁ ⟨rfl, rfl⟩ ⟨rfl, rfl⟩
    cases hmark
  | nextItem hitem' hblanks₁ hblanks₂ hitems' =>
    obtain ⟨rfl, -, hafter⟩ :=
      hsole.value_unique hitem hitem' hblanks hblanks₁ ⟨rfl, rfl⟩ ⟨rfl, rfl⟩
    obtain rfl := blanks_unique hblanks' hblanks₂ hitems.avoids_isBlank hitems'.avoids_isBlank
      hafter
    obtain ⟨hothers, hrests⟩ := hsole' hitems' trivial hrest hrest'
    cases hothers
    exact ⟨rfl, hrests⟩
  | _ => cases halike

lemma sole_lastMember {key : String} {value : Value} (hkey : Keyed text key body)
    (hvalue : Reads body (.value value) (blanks ++ '\x7d' :: rest)) (hblanks : Blanks blanks)
    (hsole : Sole body (.value value) (blanks ++ '\x7d' :: rest)) :
    Sole text (.members [(key, value)]) rest := by
  intro phrase' rest' h' halike _ _
  cases h' with
  | lastMember hkey' hvalue' hblanks' =>
    obtain ⟨rfl, rfl⟩ := hkey.unique hkey' hvalue.avoids_isBlank hvalue'.avoids_isBlank rfl
    obtain ⟨rfl, -, hrests⟩ :=
      hsole.value_unique hvalue hvalue' hblanks hblanks' ⟨rfl, rfl⟩ ⟨rfl, rfl⟩
    exact ⟨rfl, hrests⟩
  | nextMember hkey' hvalue' hblanks' =>
    obtain ⟨rfl, rfl⟩ := hkey.unique hkey' hvalue.avoids_isBlank hvalue'.avoids_isBlank rfl
    obtain ⟨-, hmark, -⟩ :=
      hsole.value_unique hvalue hvalue' hblanks hblanks' ⟨rfl, rfl⟩ ⟨rfl, rfl⟩
    cases hmark
  | _ => cases halike

lemma sole_nextMember {key : String} {value : Value} {members : List (String × Value)}
    {after : List Char} (hkey : Keyed text key body)
    (hvalue : Reads body (.value value) (blanks ++ ',' :: (blanks' ++ after)))
    (hblanks : Blanks blanks) (hblanks' : Blanks blanks')
    (hmembers : Reads after (.members members) rest)
    (hsole : Sole body (.value value) (blanks ++ ',' :: (blanks' ++ after)))
    (hsole' : Sole after (.members members) rest) :
    Sole text (.members ((key, value) :: members)) rest := by
  intro phrase' rest' h' halike hrest hrest'
  cases h' with
  | lastMember hkey' hvalue' hblanks₁ =>
    obtain ⟨rfl, rfl⟩ := hkey.unique hkey' hvalue.avoids_isBlank hvalue'.avoids_isBlank rfl
    obtain ⟨-, hmark, -⟩ :=
      hsole.value_unique hvalue hvalue' hblanks hblanks₁ ⟨rfl, rfl⟩ ⟨rfl, rfl⟩
    cases hmark
  | nextMember hkey' hvalue' hblanks₁ hblanks₂ hmembers' =>
    obtain ⟨rfl, rfl⟩ := hkey.unique hkey' hvalue.avoids_isBlank hvalue'.avoids_isBlank rfl
    obtain ⟨rfl, -, hafter⟩ :=
      hsole.value_unique hvalue hvalue' hblanks hblanks₁ ⟨rfl, rfl⟩ ⟨rfl, rfl⟩
    obtain rfl := blanks_unique hblanks' hblanks₂ hmembers.avoids_isBlank
      hmembers'.avoids_isBlank hafter
    obtain ⟨hothers, hrests⟩ := hsole' hmembers' trivial hrest hrest'
    cases hothers
    exact ⟨rfl, hrests⟩
  | _ => cases halike

end Rules

/-- A text has at most one reading of a kind, by induction on it with one lemma for each rule. -/
theorem Reads.sole {phrase : Phrase} (h : Reads text phrase rest) : Sole text phrase rest := by
  induction h with
  | null htext => exact htext ▸ sole_null
  | boolean htext => exact htext ▸ sole_boolean _
  | number htext hnumber => exact htext ▸ sole_number hnumber
  | string htext hbody => exact htext ▸ sole_string hbody
  | emptyArray htext hblanks => exact htext ▸ sole_emptyArray hblanks
  | array htext hblanks hbody ih => exact htext ▸ sole_array hblanks hbody ih
  | emptyObject htext hblanks => exact htext ▸ sole_emptyObject hblanks
  | object htext hblanks hbody ih => exact htext ▸ sole_object hblanks hbody ih
  | lastItem hitem hblanks ih => exact sole_lastItem hitem hblanks ih
  | nextItem hitem hblanks hblanks' hitems ih ihs =>
    exact sole_nextItem hitem hblanks hblanks' hitems ih ihs
  | lastMember hkey hvalue hblanks ih => exact sole_lastMember hkey hvalue hblanks ih
  | nextMember hkey hvalue hblanks hblanks' hmembers ih ihs =>
    exact sole_nextMember hkey hvalue hblanks hblanks' hmembers ih ihs

/-- A text says at most one value. -/
theorem Means.unique {value value' : Value} (h : Means text value) (h' : Means text value') :
    value = value' := by
  obtain ⟨before, body, after, rfl, hbefore, hbody, hafter⟩ := h
  obtain ⟨before', body', after', heq, hbefore', hbody', hafter'⟩ := h'
  obtain rfl := blanks_unique hbefore hbefore' hbody.avoids_isBlank hbody'.avoids_isBlank heq
  obtain ⟨hvalues, -⟩ := hbody.sole hbody' (hbody.tag_unique hbody')
    hafter.avoids_isNumeric hafter'.avoids_isNumeric
  cases hvalues
  rfl

end Readings

end ElfInspect.Json.Grammar
