import ColumnarReport.Number.ByteOrder
import ColumnarReport.Text.Base64
import ColumnarReport.Text.Utf8

/-! The entry of a footer in which a file keeps the types of its arrays, and why an entry that
someone else wrote does not hold them. An entry is a message in base64: a mark and a length, which
may be missing, and words that lead to a table of fields. -/
namespace ColumnarReport
namespace Parquet

def keptTypesKey : String := "ARROW:schema"

/-- The words of a message. They stand at multiples of their size. -/
inductive Word
  | offset
  | backOffset
  | fieldListSize
  deriving DecidableEq, Repr

def Word.size : Word → Nat
  | offset | backOffset => 4
  | fieldListSize => 2

def Word.text : Word → String
  | offset => "u32"
  | backOffset => "i32"
  | fieldListSize => "u16"

inductive KeptTypesError
  | notBase64 (cause : Text.Base64.DecodeError)
  | unaligned (position : Nat) (word : Word)
  | outOfRange (first last : Nat)
  /-- The list of fields of a table would stand outside of the message. -/
  | noFieldList (offset : Int) (position : Nat)
  | noFields
  deriving DecidableEq, Repr

namespace KeptTypesError

def trace : String := "error_trace: ErrorTrace([]) \x7d"

def messageFault? : KeptTypesError → Option String
  | unaligned position word =>
    some (s!"Unaligned \x7b position: {position}, unaligned_type: \"{word.text}\", "++trace)
  | outOfRange first last => some (s!"RangeOutOfBounds \x7b range: {first}..{last}, "++trace)
  | noFieldList offset position =>
    some (s!"SignedOffsetOutOfBounds \x7b soffset: {offset}, position: {position}, "++trace)
  | _ => none

def message (e : KeptTypesError) : String :=
  "Arrow: "++
  match e,e.messageFault? with
  | notBase64 cause,_ =>
    s!"Unable to decode the encoded schema stored in {keptTypesKey}, {cause.text}"
  | _,some fault => s!"Unable to get root as message stored in {keptTypesKey}: "++fault
  | _,none => "the message is not Arrow Schema"

end KeptTypesError

def wordAt (message : List UInt8) (w : Word) (position : Nat) : Except KeptTypesError Nat :=
  if position%w.size ≠ 0 then .error (.unaligned position w)
  else if message.length < position+w.size then .error (.outOfRange position (position+w.size))
  else .ok (ByteOrder.ofLittle ((message.drop position).take w.size))

/-- Where the list of fields of a table begins: the first word of the table leads back to it. -/
def fieldList (message : List UInt8) (table : Nat) : Except KeptTypesError Nat :=
  match wordAt message .backOffset table with
  | .error e => .error e
  | .ok w =>
    let back := (w : Int).bmod UInt32.size
    let position := (table : Int)-back
    if 0 ≤ position ∧ position < message.length then .ok position.toNat
    else .error (.noFieldList back table)

def fieldListSize (message : List UInt8) : Except KeptTypesError Nat :=
  match wordAt message .offset 0 with
  | .error e => .error e
  | .ok table =>
    match fieldList message table with
    | .error e => .error e
    | .ok list =>
      match wordAt message .fieldListSize list with
      | .error e => .error e
      | .ok size =>
        if (list+size)%Word.fieldListSize.size ≠ 0 then .error (.unaligned (list+size) .fieldListSize)
        else if message.length < list+size then .error (.outOfRange list (list+size))
        else .ok size

/-- A list of fields holds its own size and that of its table before the fields. -/
def emptyListSize : Nat := 4

def withoutMark (bytes : List UInt8) : List UInt8 :=
  if 8 < bytes.length ∧ bytes.take 4 = [0xff,0xff,0xff,0xff] then bytes.drop 8 else bytes

/-- Why an entry holds no types, if it does not. A message with fields is taken to hold them. -/
def keptTypesFault? (entry : String) : Option KeptTypesError :=
  match Text.Base64.decode (Utf8.encode entry) with
  | .error e => some (.notBase64 e)
  | .ok bytes =>
    match fieldListSize (withoutMark bytes) with
    | .error e => some e
    | .ok size => if size ≤ emptyListSize then some .noFields else none

/-- The entry that counts among those of a footer: the last one with a value. -/
def keptTypes? (keyValue : List (String × Option String)) : Option String :=
  (keyValue.filterMap fun e => if e.1 = keptTypesKey then e.2 else none).getLast?

end Parquet
end ColumnarReport
