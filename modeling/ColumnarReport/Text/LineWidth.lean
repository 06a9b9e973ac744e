import ColumnarReport.Text.Ligature

/-! Columns that a line takes on a terminal. Characters that are drawn as one take its columns:
emoji that a selector, a skin tone or a joiner follows, the letters of a flag, and ligatures. A
line is read from its end, since what follows a character decides. -/
namespace ColumnarReport
namespace Text

/-- The tail of a tag sequence, which spells the region that a black flag before it stands for:
up to three digits after letters, or letters alone. -/
inductive TagTail
  | mark
  | letters (count : Nat)
  | digits (count : Nat)
  deriving DecidableEq, Repr

def tagMark : Char := Char.ofNat 0xE007F
def tagLetters : CodePoints := [(0xE0061,0xE007A)]
def tagDigits : CodePoints := [(0xE0030,0xE0039)]
def blackFlag : Char := Char.ofNat 0x1F3F4

namespace TagTail

def extend (c : Char) : TagTail → Option TagTail
  | mark =>
    if tagLetters.has c then some (letters 1)
    else if tagDigits.has c then some (digits 1)
    else none
  | letters n =>
    if tagLetters.has c && decide (n < 6) then some (letters (n+1))
    else if tagDigits.has c && decide (n < 5) then some (digits 1)
    else none
  | digits n => if tagDigits.has c && decide (n < 3) then some (digits (n+1)) else none

/-- Regions are spelled by three letters or more, or by three digits. -/
def isRegion : TagTail → Bool
  | mark => false
  | letters n => decide (3 ≤ n)
  | digits n => decide (n = 3)

end TagTail

/-- What stands after a character, as far as its columns depend on that. -/
inductive Successor
  | plain
  | picture
  | skinTone
  | flagLetter
  | flagLetters
  | joined
  | joinedKeycap
  | joinedFlagLetter
  /-- Flag letters before a joined picture; `paired` if their number is even. -/
  | joinedFlagLetters (paired : Bool)
  | joinedTags (tail : TagTail)
  | ligature (l : Ligature)
  | vowelSign (v : VowelSign)
  deriving DecidableEq, Repr

inductive Selector
  | picture
  | text
  | wideQuote
  deriving DecidableEq, Repr

def Selector.of? (c : Char) : Option Selector :=
  if c = '\ufe0f' then some picture
  else if c = '\ufe0e' then some text
  else if c = '\ufe01' then some wideQuote
  else none

/-- A successor, and a selector that stands before it. -/
structure Following where
  successor : Successor
  selector : Option Selector
  deriving DecidableEq

namespace Following

def of (s : Successor) : Following := ⟨s,none⟩

/-- A selector without effect takes away what follows it, except for ligatures. -/
def passSelector (f : Following) : Following :=
  match f.selector,f.successor with
  | none,_ => f
  | some _,.ligature l => of (.ligature l)
  | some _,_ => of .plain

def isJoined (f : Following) : Bool := f.successor = .joined || f.successor = .joinedKeycap

def outlasts (f : Following) (s : Selector) : Bool :=
  match f.successor with
  | .ligature _ => true
  | _ => decide (s = .picture) && f.isJoined

def select (f : Following) (s : Selector) : Following :=
  ⟨if f.outlasts s then f.successor else .plain,some s⟩

end Following

def alone (c : Char) : Int × Successor :=
  (charWidth c,
    if flagLetters.has c then .flagLetter
    else if skinTones.has c then .skinTone
    else if pictures.has c then .picture
    else
      match Ligature.of? c,VowelSign.of? c with
      | some l,_ => .ligature l
      | none,some v => .vowelSign v
      | none,none => .plain)

namespace Successor

def takesJoiner : Successor → Bool
  | picture | skinTone | flagLetters | joinedFlagLetters _ => true
  | _ => false

/-- The columns that a character adds if it is drawn with its successor, and what it is then to
the one before it. Flag letters share the columns of each pair. -/
def before (c : Char) (s : Successor) : Option (Int × Successor) :=
  if c = joiner && s.takesJoiner then some (0,joined)
  else
    match s with
    | skinTone => if skinToneBases.has c then some (0,picture) else none
    | flagLetter | flagLetters => if Text.flagLetters.has c then some (1,flagLetters) else none
    | joined =>
      if c = keycap then some (0,joinedKeycap)
      else if Text.flagLetters.has c then some (1,joinedFlagLetter)
      else if skinTones.has c then some (0,skinTone)
      else if c = tagMark then some (0,joinedTags .mark)
      else if pictures.has c then some (0,picture)
      else none
    | joinedFlagLetter | joinedFlagLetters false =>
      if Text.flagLetters.has c then some (-1,joinedFlagLetters true) else none
    | joinedFlagLetters true =>
      if Text.flagLetters.has c then some (3,joinedFlagLetters false) else none
    | joinedTags tail =>
      if c = blackFlag && tail.isRegion then some (0,picture)
      else (tail.extend c).map fun t => (0,joinedTags t)
    | ligature l => (l.before c).map fun (n,l) => (n,(l.map ligature).getD plain)
    | vowelSign v => (v.before c).map fun (n,v) => (n,(v.map vowelSign).getD plain)
    | plain | picture | joinedKeycap => none

end Successor

def quotes : CodePoints := [(0x2018,0x2019),(0x201C,0x201D)]

/-- Characters up to this one take one column, whatever follows, except for a selector. -/
def lastNarrow : Nat := 0xA0

def place (c : Char) (next : Following) : Int × Following :=
  if next.selector = some .picture && hasPictureForm c then
    (if next.isJoined then 0 else 2,.of .picture)
  else if c.toNat ≤ lastNarrow then (1,.of .plain)
  else
    match Selector.of? c with
    | some s => (0,next.passSelector.select s)
    | none =>
      if next.selector = some .text && picturesOrText.has c && !ideographs.has c then (1,.of .plain)
      else if next.selector = some .wideQuote && quotes.has c then (2,.of .plain)
      else
        let (columns,s) := (next.passSelector.successor.before c).getD (alone c)
        (columns,.of s)

def measure : List Char → Int × Following
  | [] => (0,.of .plain)
  | c :: rest =>
    let r := measure rest
    let p := place c r.2
    (p.1+r.1,p.2)

def width (line : String) : Nat := (measure line.toList).1.toNat

end Text
end ColumnarReport
