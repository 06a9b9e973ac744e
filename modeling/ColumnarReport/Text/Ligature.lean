import ColumnarReport.Text.Emoji
import ColumnarReport.Text.Width

/-! Letters that are drawn as one with the characters before them, in the scripts where that
changes the columns of a line. -/
namespace ColumnarReport
namespace Text

def alefs : CodePoints :=
  [(0x622,0x623),(0x625,0x625),(0x627,0x627),(0x671,0x673),(0x675,0x675),(0x773,0x774),(0x870,0x882)]

def lams : CodePoints := [(0x644,0x644),(0x6B5,0x6B8),(0x76A,0x76A),(0x8A6,0x8A6),(0x8C7,0x8C7)]

/-- Characters without columns of their own that part a lam from an alef; all others that have
none may stand between them. -/
def partingMarks : CodePoints :=
  [(0x605,0x605),(0x890,0x891),(0x8E2,0x8E2),(0x9BE,0x9BE),(0x9D7,0x9D7),(0xB3E,0xB3E),(0xB57,0xB57),
   (0xBBE,0xBBE),(0xBD7,0xBD7),(0xCC0,0xCC0),(0xCC2,0xCC2),(0xCC7,0xCC8),(0xCCA,0xCCB),(0xCD5,0xCD6),
   (0xD3E,0xD3E),(0xD4E,0xD4E),(0xD57,0xD57),(0xDCF,0xDCF),(0xDDF,0xDDF),(0x1160,0x11FF),
   (0x1715,0x1715),(0x1734,0x1734),(0x180E,0x180E),(0x1B35,0x1B35),(0x1B3B,0x1B3B),(0x1B3D,0x1B3D),
   (0x1B43,0x1B44),(0x1BAA,0x1BAA),(0x1BF2,0x1BF3),(0x200C,0x200D),(0x2065,0x2069),(0x302E,0x302F),
   (0x3164,0x3164),(0xA8FA,0xA8FA),(0xA953,0xA953),(0xA9C0,0xA9C0),(0xD7B0,0xD7C6),(0xD7CB,0xD7FB),
   (0xFFA0,0xFFA0),(0xFFF0,0xFFF8),(0x111C0,0x111C0),(0x111C2,0x111C3),(0x11235,0x11235),
   (0x1133E,0x1133E),(0x1134D,0x1134D),(0x11357,0x11357),(0x113B8,0x113B8),(0x113C2,0x113C2),
   (0x113C5,0x113C5),(0x113C7,0x113C9),(0x113CF,0x113CF),(0x113D1,0x113D1),(0x114B0,0x114B0),
   (0x114BD,0x114BD),(0x115AF,0x115AF),(0x116B6,0x116B6),(0x11930,0x11930),(0x1193D,0x1193D),
   (0x1193F,0x1193F),(0x11941,0x11941),(0x11A84,0x11A89),(0x11D46,0x11D46),(0x11F02,0x11F02),
   (0x11F41,0x11F41),(0x16FF0,0x16FF1),(0x1D165,0x1D166),(0x1D16D,0x1D172),(0xE0000,0xE0000),
   (0xE0002,0xE001F),(0xE0080,0xE00FF),(0xE01F0,0xE0FFF)]

def isBetweenArabic (c : Char) : Bool := zeroWidth.has c && !partingMarks.has c

/-- Characters that other letters look through; the joiner is one of them. -/
def transparent : CodePoints :=
  [(0x34F,0x34F),(0x17B4,0x17B5),(0x180B,0x180D),(0x180F,0x180F),(0x200D,0x200D),(0xFE00,0xFE0F),
   (0xE0100,0xE01EF)]

def khmerLetters : CodePoints :=
  [(0x1780,0x1782),(0x1784,0x1787),(0x1789,0x178C),(0x178E,0x1793),(0x1795,0x1798),(0x179B,0x179D),
   (0x17A0,0x17A0),(0x17A2,0x17A2),(0x17A7,0x17A7),(0x17AB,0x17AC),(0x17AF,0x17AF)]

def tifinaghLetters : CodePoints := [(0x2D31,0x2D65),(0x2D6F,0x2D6F)]

/-- Lisu tone letters that another tone letter is drawn with, and those that are drawn with one. -/
def lisuSecond : CodePoints := [(0xA4FC,0xA4FD)]
def lisuFirst : CodePoints := [(0xA4F8,0xA4FB)]

def lamed : Char := '\u05dc'
def hebrewAlef : Char := '\u05d0'
def coeng : Char := '\u17d2'
def ya : Char := '\u1a10'
def vowelI : Char := '\u1a17'
def na : Char := '\u1a15'
def tifinaghJoiner : Char := '\u2d7f'
def orkhonI : Char := Char.ofNat 0x10C03
def orkhonSecond : Char := Char.ofNat 0x10C32

/-- A letter that the character before it may be drawn with. The joiner stands before a letter
that is joined. -/
inductive Ligature
  | alef
  | lamed (joined : Bool)
  | khmer
  | ya (joined : Bool)
  | voweledYa
  | tifinagh (joined : Bool)
  | linkedTifinagh
  | lisu
  | orkhon (joined : Bool)
  deriving DecidableEq, Repr

namespace Ligature

def of? (c : Char) : Option Ligature :=
  if alefs.has c then some alef
  else if c = Text.lamed then some (lamed false)
  else if khmerLetters.has c then some khmer
  else if c = Text.ya then some (ya false)
  else if tifinaghLetters.has c then some (tifinagh false)
  else if lisuSecond.has c then some lisu
  else if c = orkhonI then some (orkhon false)
  else none

def join : Ligature → Ligature
  | lamed _ => lamed true
  | ya _ => ya true
  | tifinagh _ => tifinagh true
  | orkhon _ => orkhon true
  | l => l

/-- The columns that a character adds before such a letter, and what the two are then to the
character before them. Absent where the character is drawn on its own. -/
def before (c : Char) : Ligature → Option (Int × Option Ligature)
  | alef =>
    if lams.has c then some (0,none)
    else if isBetweenArabic c then some (0,some alef)
    else none
  | l =>
    if transparent.has c then some (0,some (if c = joiner then l.join else l))
    else
      match l with
      | lamed true => if c = hebrewAlef then some (0,none) else none
      | khmer => if c = coeng then some (-1,none) else none
      | ya true => if c = vowelI then some (0,some voweledYa) else none
      | voweledYa => if c = na then some (0,none) else none
      | tifinagh joined =>
        if c = Text.tifinaghJoiner then some (1,some linkedTifinagh)
        else if joined && tifinaghLetters.has c then some (0,none)
        else none
      | linkedTifinagh => if tifinaghLetters.has c then some (-1,none) else none
      | lisu => if lisuFirst.has c then some (0,none) else none
      | orkhon true => if c = orkhonSecond then some (0,none) else none
      | _ => none

end Ligature

/-- Kirat Rai vowel signs, which are drawn as one sign with those before them. -/
inductive VowelSign
  | e
  | ai
  deriving DecidableEq, Repr

namespace VowelSign

def of? (c : Char) : Option VowelSign :=
  if c.toNat = 0x16D67 then some e else if c.toNat = 0x16D68 then some ai else none

def before (c : Char) : VowelSign → Option (Int × Option VowelSign)
  | e =>
    if c.toNat = 0x16D63 ∨ c.toNat = 0x16D69 then some (0,none)
    else if c.toNat = 0x16D67 then some (0,some ai)
    else if c.toNat = 0x16D68 then some (1,some e)
    else none
  | ai => if c.toNat = 0x16D63 then some (0,none) else none

end VowelSign

end Text
end ColumnarReport
