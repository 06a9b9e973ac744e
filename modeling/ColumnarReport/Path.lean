import ColumnarReport.Text.Utf8

/-! File paths as bytes, read by components: repeated and trailing separators and inner
single dots name nothing. -/
namespace ColumnarReport

structure Path where
  bytes : List UInt8
  deriving DecidableEq

namespace Path

inductive Component
  | root
  | current
  | parent
  | name (bytes : List UInt8)
  deriving DecidableEq

def separator : UInt8 := 47
def dot : UInt8 := 46

def split : List UInt8 → List (List UInt8)
  | [] => [[]]
  | b :: rest =>
    if b = separator then [] :: split rest
    else
      match split rest with
      | [] => [[b]]
      | piece :: pieces => (b :: piece) :: pieces

def ofPiece (piece : List UInt8) : Option Component :=
  if piece = [] ∨ piece = [dot] then none
  else if piece = [dot,dot] then some .parent
  else some (.name piece)

/-- A single dot counts only where a relative path begins with it. -/
def components (p : Path) : List Component :=
  let pieces := split p.bytes
  let inner := pieces.filterMap ofPiece
  match pieces with
  | [] :: _ :: _ => .root :: inner
  | [d] :: _ => if d = dot then .current :: inner else inner
  | _ => inner

def same (p q : Path) : Bool := p.components = q.components

def fileName (p : Path) : Option (List UInt8) :=
  match p.components.getLast? with
  | some (.name n) => some n
  | _ => none

def display (p : Path) : String := Utf8.decodeLossy p.bytes

def ofString (s : String) : Path := ⟨Utf8.encode s⟩

end Path

/-- A file name without its extension: what stands before the last dot. A dot at the start of
the name starts no extension. -/
def fileStem (name : String) : String :=
  let reversed := name.toList.reverse
  let before := (reversed.dropWhile (· ≠ '.')).drop 1
  if before = [] then name else String.ofList before.reverse

end ColumnarReport
