import ColumnarReport.Text.Utf8

/-! Text without what a terminal would act on: control characters, and the control sequences that
the escape character begins. Line breaks and blanks stay. -/
namespace ColumnarReport
namespace Text
namespace Terminal

def escape : Char := '\x1b'
def bell : Char := '\x07'
def delete : Char := '\x7f'

def multibyte : Char := '\x80'

/-- Where a reader of control sequences stands. -/
inductive State
  | text
  | escape
  | intermediate
  | control
  | device
  | deviceParameter
  | deviceIntermediate
  /-- In a string that a byte of its own ends. -/
  | string
  | systemCommand
  deriving DecidableEq, Repr

def endsString (c : Char) : Bool := (Utf8.encode c.toString).contains 0x9c

namespace State

def executes : State → Bool
  | text | escape | intermediate | control => true
  | _ => false

def shows (s : State) (c : Char) : Bool :=
  if c = '\t' || c = '\n' || c = '\x0c' || c = '\r' then s.executes
  else decide (s = text) && decide (' ' ≤ c) && c != delete

def afterEscape (c : Char) : State :=
  if c < '0' then intermediate
  else if c = '[' then control
  else if c = ']' then systemCommand
  else if c = 'P' then device
  else if c = 'X' || c = '^' || c = '_' then string
  else text

def inSequence (c : Char) : State → State
  | text => text
  | escape => afterEscape c
  | intermediate => if c < '0' then intermediate else text
  | control => if c < '@' then control else text
  | device =>
    if c < '0' then deviceIntermediate
    else if c = ':' then string
    else if c < '@' then deviceParameter
    else string
  | deviceParameter =>
    if c < '0' then deviceIntermediate
    else if c ≤ ';' && c != ':' then deviceParameter
    else string
  | deviceIntermediate => if c < '0' then deviceIntermediate else string
  | string => string
  | systemCommand => systemCommand

/-- The state after a character that does not show. -/
def next (s : State) (c : Char) : State :=
  if c = Terminal.escape then escape
  else if c = '\x18' || c = '\x1a' then text
  else if c = bell && s = systemCommand then text
  else if c < ' ' || c = delete then s
  else if c < multibyte then s.inSequence c
  else if s = string && endsString c then text
  else s

end State

/-- The characters that show. A run of them goes on as text does, in any state, and a character
of more than one byte in it leads back to text. -/
def visible (s : State) (inRun : Bool) : List Char → List Char
  | [] => []
  | c :: rest =>
    if (if inRun then State.text else s).shows c then
      c :: visible (if c < multibyte then s else .text) true rest
    else visible (s.next c) false rest

end Terminal

def terminalText (text : String) : String :=
  String.ofList (Terminal.visible .text false text.toList)

end Text
end ColumnarReport
