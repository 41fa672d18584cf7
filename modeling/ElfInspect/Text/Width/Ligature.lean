import ElfInspect.Text.Width.Table

/-!
# Ligatures

Letters that share their columns with the letters before them. A text is looked at from its
end, so a ligature is known by its last letter, and what stands before that letter may join it.
-/

namespace ElfInspect.Width

/-- The joiner that asks for a ligature where a script has one. -/
def joiner : Nat := 0x200d

/-- Characters without width that keep an Arabic lam and the alef after it apart. -/
def tightRanges : Ranges := [
  (0x0605, 0x0605), (0x0890, 0x0891), (0x08e2, 0x08e2), (0x09be, 0x09be), (0x09d7, 0x09d7),
  (0x0b3e, 0x0b3e), (0x0b57, 0x0b57), (0x0bbe, 0x0bbe), (0x0bd7, 0x0bd7), (0x0cc0, 0x0cc0),
  (0x0cc2, 0x0cc2), (0x0cc7, 0x0cc8), (0x0cca, 0x0ccb), (0x0cd5, 0x0cd6), (0x0d3e, 0x0d3e),
  (0x0d4e, 0x0d4e), (0x0d57, 0x0d57), (0x0dcf, 0x0dcf), (0x0ddf, 0x0ddf), (0x1160, 0x11ff),
  (0x1715, 0x1715), (0x1734, 0x1734), (0x180e, 0x180e), (0x1b35, 0x1b35), (0x1b3b, 0x1b3b),
  (0x1b3d, 0x1b3d), (0x1b43, 0x1b44), (0x1baa, 0x1baa), (0x1bf2, 0x1bf3), (0x200c, 0x200d),
  (0x2065, 0x2069), (0x302e, 0x302f), (0x3164, 0x3164), (0xa8fa, 0xa8fa), (0xa953, 0xa953),
  (0xa9c0, 0xa9c0), (0xd7b0, 0xd7c6), (0xd7cb, 0xd7fb), (0xffa0, 0xffa0), (0xfff0, 0xfff8),
  (0x111c0, 0x111c0), (0x111c2, 0x111c3), (0x11235, 0x11235), (0x1133e, 0x1133e),
  (0x1134d, 0x1134d), (0x11357, 0x11357), (0x113b8, 0x113b8), (0x113c2, 0x113c2),
  (0x113c5, 0x113c5), (0x113c7, 0x113c9), (0x113cf, 0x113cf), (0x113d1, 0x113d1),
  (0x114b0, 0x114b0), (0x114bd, 0x114bd), (0x115af, 0x115af), (0x116b6, 0x116b6),
  (0x11930, 0x11930), (0x1193d, 0x1193d), (0x1193f, 0x1193f), (0x11941, 0x11941),
  (0x11a84, 0x11a89), (0x11d46, 0x11d46), (0x11f02, 0x11f02), (0x11f41, 0x11f41),
  (0x16ff0, 0x16ff1), (0x1d165, 0x1d166), (0x1d16d, 0x1d172), (0x1d250, 0x1d252),
  (0x1d25f, 0x1d25f), (0xe0000, 0xe0000), (0xe0002, 0xe001f), (0xe0080, 0xe00ff),
  (0xe01f0, 0xe0fff)]

/-- Marks that are not drawn. They do not break a ligature. -/
def hiddenMarkRanges : Ranges := [
  (0x034f, 0x034f), (0x17b4, 0x17b5), (0x180b, 0x180d), (0x180f, 0x180f), (0xfe00, 0xfe0f),
  (0xe0100, 0xe01ef)]

def alefRanges : Ranges := [
  (0x0622, 0x0623), (0x0625, 0x0625), (0x0627, 0x0627), (0x0671, 0x0673), (0x0675, 0x0675),
  (0x0773, 0x0774), (0x0870, 0x0882)]

def lamRanges : Ranges := [
  (0x0644, 0x0644), (0x06b5, 0x06b8), (0x076a, 0x076a), (0x08a6, 0x08a6), (0x08c7, 0x08c7)]

def tifinaghConsonants : Ranges := [(0x2d31, 0x2d65), (0x2d6f, 0x2d6f)]

/-- Khmer letters that can be written below another one. -/
def khmerSubscripts : Ranges := [
  (0x1780, 0x1782), (0x1784, 0x1787), (0x1789, 0x178c), (0x178e, 0x1793), (0x1795, 0x1798),
  (0x179b, 0x179d), (0x17a0, 0x17a0), (0x17a2, 0x17a2), (0x17a7, 0x17a7), (0x17ab, 0x17ac),
  (0x17af, 0x17af)]

/-- The end of a possible ligature. -/
inductive Ligature where
  /-- An Arabic alef, joined by a lam. -/
  | alef
  /-- A Hebrew lamed, joined by an alef and a joiner. -/
  | lamed
  /-- A Buginese ya, joined by a vowel sign i and a joiner. -/
  | ya
  /-- A Buginese vowel sign i with its ya, joined by the letter a. -/
  | vowelYa
  /-- A Tifinagh consonant, joined by another one and a joiner of either kind. -/
  | consonant
  /-- A Tifinagh consonant with its own kind of joiner. -/
  | joinedConsonant
  /-- A second Lisu tone letter, joined by a first one. -/
  | toneLetter
  /-- An Old Turkic i, joined by the letter ench and a joiner. -/
  | orkhonI
  /-- A Khmer letter, put below another one by the sign coeng. -/
  | subscript
  /-- A Kirat Rai vowel sign e, a part of the signs ai, o and au. -/
  | vowelE
  /-- A Kirat Rai vowel sign ai, a part of the sign au. -/
  | vowelAi
  deriving DecidableEq, Repr

namespace Ligature

def ofCode? (code : Nat) : Option Ligature :=
  if alefRanges.holds code then some alef
  else if code = 0x05dc then some lamed
  else if code = 0x1a10 then some ya
  else if tifinaghConsonants.holds code then some consonant
  else if code = 0xa4fc || code = 0xa4fd then some toneLetter
  else if code = 0x10c03 then some orkhonI
  else if khmerSubscripts.holds code then some subscript
  else if code = 0x16d67 then some vowelE
  else if code = 0x16d68 then some vowelAi
  else none

/-- Whether marks that are not drawn may stand inside the ligature. -/
def isLoose : Ligature → Bool
  | vowelE | vowelAi => false
  | _ => true

/-- Whether a character may stand inside the ligature without a part in it. -/
def passes (ligature : Ligature) (code : Nat) : Bool :=
  match ligature with
  | alef => zeroRanges.holds code && !tightRanges.holds code
  | _ => ligature.isLoose && hiddenMarkRanges.holds code

/-- What a character adds to the width where it joins the ligature, and the end of the ligature
that it begins in turn. Some ligatures need a joiner. -/
def join? (ligature : Ligature) (joined : Bool) (code : Nat) : Option (Int × Option Ligature) :=
  match ligature with
  | alef => if lamRanges.holds code then some (0, none) else none
  | lamed => if joined && code = 0x05d0 then some (0, none) else none
  | ya => if joined && code = 0x1a17 then some (0, some vowelYa) else none
  | vowelYa => if code = 0x1a15 then some (0, none) else none
  | consonant =>
    if code = 0x2d7f then some (1, some joinedConsonant)
    else if joined && tifinaghConsonants.holds code then some (0, none)
    else none
  | joinedConsonant => if tifinaghConsonants.holds code then some (-1, none) else none
  | toneLetter => if 0xa4f8 ≤ code && code ≤ 0xa4fb then some (0, none) else none
  | orkhonI => if joined && code = 0x10c32 then some (0, none) else none
  | subscript => if code = 0x17d2 then some (-1, none) else none
  | vowelE =>
    if code = 0x16d63 || code = 0x16d69 then some (0, none)
    else if code = 0x16d67 then some (0, some vowelAi)
    else if code = 0x16d68 then some (1, some vowelE)
    else none
  | vowelAi => if code = 0x16d63 then some (0, none) else none

end Ligature

end ElfInspect.Width
