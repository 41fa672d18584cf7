import ElfInspect.Text.Width.Emoji
import ElfInspect.Text.Width.Ligature

/-!
# Display width

How many columns of a terminal a text takes. Most characters have a width of their own: two
for wide characters, none for marks that are drawn over the character before them, one for
all others. Control characters count as one, whatever a terminal does with them.

The width of some characters depends on what follows: a selector asks for another form of the
character, a joiner makes one emoji of two, and letters share their columns in a ligature. So a
text is looked at from its end, and each character is measured with what follows it in view.
-/

namespace ElfInspect.Width

/-- The width of a character by itself. All characters up to the first no-break space are one
column wide. -/
def ofCode (code : Nat) : Nat :=
  if code ≤ 0xa0 then 1
  else if code = 0x17d8 then 3
  else if wideRanges.holds code then 2
  else if zeroRanges.holds code then 0
  else 1

/-- A character that asks for another form of the one before it. -/
inductive Selector where
  | emoji
  | text
  | wideQuote
  deriving DecidableEq, Repr

def Selector.ofCode? (code : Nat) : Option Selector :=
  if code = 0xfe0f then some emoji
  else if code = 0xfe0e then some text
  else if code = 0xfe01 then some wideQuote
  else none

/-- What follows a place in a text, as far as a character before it may join it. -/
inductive Context where
  | plain
  /-- The end of a ligature, and whether a joiner stands before it. -/
  | ligature (ligature : Ligature) (joined : Bool)
  | skinTone
  /-- One flag letter, or several. -/
  | flagLetters (several : Bool)
  | emoji
  /-- A joiner before an emoji. -/
  | joinedEmoji
  /-- The frame of a keycap before a joined emoji. -/
  | joinedKeycap
  /-- Flag letters before a joined emoji. -/
  | joinedFlags (count : Nat)
  /-- The end of a tagged flag before a joined emoji, with so many letters and digits. -/
  | tags (letters digits : Nat)
  deriving DecidableEq, Repr

namespace Context

/-- What a character is for the characters before it. -/
def ofCode (code : Nat) : Context :=
  match Ligature.ofCode? code with
  | some tail => ligature tail false
  | none =>
    if isSkinTone code then skinTone
    else if isFlagLetter code then flagLetters false
    else if isEmoji code then emoji
    else plain

def isLoose : Context → Bool
  | ligature tail _ => tail.isLoose
  | _ => false

def isJoined : Context → Bool
  | joinedEmoji | joinedKeycap => true
  | _ => false

/-- Whether the context stays in view of the characters before a selector. -/
def keeps (context : Context) (selector : Selector) : Bool :=
  context.isLoose || (context.isJoined && selector = .emoji)

/-- What a character adds to the width where it joins the context, and the context that it
makes for the characters before it. -/
def join? (context : Context) (code : Nat) : Option (Int × Context) :=
  match context with
  | plain => none
  | ligature tail joined =>
    if code = joiner && tail ≠ .alef && tail.isLoose then some (0, ligature tail true)
    else if tail.passes code then some (0, context)
    else (tail.join? joined code).map fun (width, next?) =>
      (width, (next?.map fun next => ligature next false).getD plain)
  | skinTone =>
    if takesTone code then some (0, emoji)
    else if code = joiner then some (0, joinedEmoji)
    else none
  | flagLetters several =>
    if isFlagLetter code then some (1, flagLetters true)
    else if several && code = joiner then some (0, joinedEmoji)
    else none
  | emoji => if code = joiner then some (0, joinedEmoji) else none
  | joinedEmoji =>
    if code = keycap then some (0, joinedKeycap)
    else if isFlagLetter code then some (1, joinedFlags 1)
    else if isSkinTone code then some (0, skinTone)
    else if code = tagEnd then some (0, tags 0 0)
    else if isEmoji code then some (0, emoji)
    else none
  | joinedKeycap => none
  | joinedFlags count =>
    if isFlagLetter code then some (if count % 2 = 0 then 3 else -1, joinedFlags (count + 1))
    else if 1 < count && code = joiner then some (0, joinedEmoji)
    else none
  | tags letters digits =>
    if isTagLetter code && digits = 0 && letters < 6 then some (0, tags (letters + 1) 0)
    else if isTagDigit code && digits = 0 && letters < 5 then some (0, tags letters 1)
    else if isTagDigit code && 0 < digits && digits < 3 then some (0, tags letters (digits + 1))
    else if code = blackFlag && (digits = 3 || (digits = 0 && 2 < letters)) then some (0, emoji)
    else none

end Context

/-- What follows a place in a text: the forms that selectors ask for, and the context behind
them. -/
structure Following where
  context : Context := .plain
  emoji : Bool := false
  text : Bool := false
  wideQuote : Bool := false
  deriving DecidableEq, Repr

namespace Following

def isQuote (code : Nat) : Bool :=
  code = 0x2018 || code = 0x2019 || code = 0x201c || code = 0x201d

/-- What follows the characters before a selector. -/
def ask (following : Following) (selector : Selector) : Following :=
  let kept := if following.context.keeps selector then following else {}
  match selector with
  | .emoji => { kept with emoji := true }
  | .text => { kept with text := true }
  | .wideQuote => { kept with wideQuote := true }

/-- What follows a character that has no emoji form. Only a character next to the emoji selector
can take that form; the other selectors wait behind a further one. -/
def release (following : Following) : Following :=
  if following.emoji then
    if following.context.isLoose then { following with emoji := false } else {}
  else following

/-- What a character beyond the first no-break space adds to the width where no emoji form is
asked of it, and what then follows the characters before it. -/
def stepPlain (following : Following) (code : Nat) : Int × Following :=
  match Selector.ofCode? code with
  | some selector => (0, following.ask selector)
  | none =>
    if following.text && hasNarrowForm code then (1, {})
    else if following.wideQuote && isQuote code then (2, {})
    else match following.context.join? code with
      | some (width, context) => (width, { context })
      | none => (ofCode code, { context := .ofCode code })

/-- What a character adds to the width of a text, and what then follows the characters before
it. -/
def step (following : Following) (code : Nat) : Int × Following :=
  if following.emoji && hasEmojiForm code then
    (if following.context.isJoined then 0 else 2, { context := .emoji })
  else if code ≤ 0xa0 then (1, {})
  else following.release.stepPlain code

end Following

/-- The width of a text, and what it is for the characters before it. -/
def measure (chars : List Char) : Int × Following :=
  chars.foldr (fun char (total, following) =>
    let (width, next) := following.step char.toNat
    (total + width, next)) (0, {})

/-- The width of a text without line breaks. -/
def ofChars (chars : List Char) : Nat :=
  (measure chars).1.toNat

theorem measure_cons (char : Char) (rest : List Char) :
    measure (char :: rest) =
      ((measure rest).1 + ((measure rest).2.step char.toNat).1,
        ((measure rest).2.step char.toNat).2) := rfl

/-- A character up to the first no-break space takes one column where no selector follows. -/
theorem Following.step_of_le {code : Nat} (h : code ≤ 0xa0) : step {} code = (1, {}) := by
  simp [step, h]

theorem measure_of_le {chars : List Char} (h : ∀ char ∈ chars, char.toNat ≤ 0xa0) :
    measure chars = ((chars.length : Int), {}) := by
  induction chars with
  | nil => rfl
  | cons char rest ih =>
    rw [measure_cons, ih fun c hc => h c (by simp [hc]), Following.step_of_le (h char (by simp))]
    simp

/-- A text of characters up to the first no-break space is as wide as it is long. -/
theorem ofChars_of_le {chars : List Char} (h : ∀ char ∈ chars, char.toNat ≤ 0xa0) :
    ofChars chars = chars.length := by
  simp [ofChars, measure_of_le h]

end ElfInspect.Width
