/-! Bytes in base64: four symbols of six bits for three bytes. Pads fill up the last group, and
the bits that a shorter last group leaves over are zero. -/
namespace ColumnarReport
namespace Text
namespace Base64

inductive DecodeError
  | invalidByte (place : Nat) (byte : UInt8)
  | invalidLength (length : Nat)
  | invalidLastSymbol (place : Nat) (byte : UInt8)
  | invalidPadding
  deriving DecidableEq, Repr

def DecodeError.text : DecodeError → String
  | .invalidByte place byte => s!"InvalidByte({place}, {byte.toNat})"
  | .invalidLength length => s!"InvalidLength({length})"
  | .invalidLastSymbol place byte => s!"InvalidLastSymbol({place}, {byte.toNat})"
  | .invalidPadding => "InvalidPadding"

def pad : UInt8 := 0x3d

def symbolValue? (b : UInt8) : Option Nat :=
  if 0x41 ≤ b ∧ b ≤ 0x5a then some (b.toNat-0x41)
  else if 0x61 ≤ b ∧ b ≤ 0x7a then some (b.toNat-0x61+26)
  else if 0x30 ≤ b ∧ b ≤ 0x39 then some (b.toNat-0x30+52)
  else if b = 0x2b then some 62
  else if b = 0x2f then some 63
  else none

def values (place : Nat) : List UInt8 → Except DecodeError (List Nat)
  | [] => .ok []
  | b :: rest =>
    match symbolValue? b with
    | none => .error (.invalidByte place b)
    | some v => (values (place+1) rest).map (v :: ·)

/-- The values of the last group. Pads stand only at its end, after two symbols at least. -/
def lastValues (place : Nat) (group : List UInt8) : Except DecodeError (List Nat) :=
  let symbols := group.takeWhile (· ≠ pad)
  let pads := group.dropWhile (· ≠ pad)
  match values place symbols with
  | .error e => .error e
  | .ok vs =>
    if pads ≠ [] ∧ (vs.length < 2 ∨ pads.any (· ≠ pad)) then
      .error (.invalidByte (place+vs.length) pad)
    else if group ≠ [] ∧ vs.length < 2 then .error (.invalidLength (place+vs.length))
    else if group.length%4 ≠ 0 then .error .invalidPadding
    else .ok vs

def leftOver : List Nat → Nat
  | [_,b] => b%16
  | [_,_,c] => c%4
  | _ => 0

def toBytes : List Nat → List UInt8
  | a :: b :: c :: d :: rest =>
    .ofNat (a*4+b/16) :: .ofNat (b*16+c/4) :: .ofNat (c*64+d) :: toBytes rest
  | [a,b,c] => [.ofNat (a*4+b/16),.ofNat (b*16+c/4)]
  | [a,b] => [.ofNat (a*4+b/16)]
  | _ => []

def lastStart (length : Nat) : Nat := if length%4 = 0 then length-4 else length-length%4

/-- A single byte behind the groups that is no symbol is what is wrong first. -/
def strayByte? (bytes : List UInt8) : Option DecodeError :=
  match bytes.getLast? with
  | some b =>
    if bytes.length%4 = 1 ∧ b ≠ pad ∧ symbolValue? b = none then
      some (.invalidByte (bytes.length-1) b)
    else none
  | none => none

def decode (bytes : List UInt8) : Except DecodeError (List UInt8) :=
  let start := lastStart bytes.length
  match strayByte? bytes,values 0 (bytes.take start),lastValues start (bytes.drop start) with
  | some e,_,_ => .error e
  | none,.error e,_ => .error e
  | none,.ok _,.error e => .error e
  | none,.ok vs,.ok us =>
    if leftOver us ≠ 0 then
      let place := start+us.length-1
      .error (.invalidLastSymbol place (bytes[place]?.getD pad))
    else .ok (toBytes (vs++us))

end Base64
end Text
end ColumnarReport
