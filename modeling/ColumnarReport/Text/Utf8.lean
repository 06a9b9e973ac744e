/-! UTF-8: bytes as a run of characters and of ill-formed stretches. A stretch is the longest
start of a well-formed sequence that the bytes break off, or a single byte that starts none. -/
namespace ColumnarReport
namespace Utf8

/-- For a first byte: the number of bytes that follow, the bounds of the next one, and the bits
that the first byte contributes. -/
def lead (b : UInt8) : Option (Nat × UInt8 × UInt8 × Nat) :=
  if b < 0xC2 then none
  else if b ≤ 0xDF then some (1,0x80,0xBF,b.toNat-0xC0)
  else if b = 0xE0 then some (2,0xA0,0xBF,0)
  else if b = 0xED then some (2,0x80,0x9F,0xD)
  else if b ≤ 0xEF then some (2,0x80,0xBF,b.toNat-0xE0)
  else if b = 0xF0 then some (3,0x90,0xBF,0)
  else if b ≤ 0xF3 then some (3,0x80,0xBF,b.toNat-0xF0)
  else if b = 0xF4 then some (3,0x80,0x8F,4)
  else none

def tail : Nat → UInt8 → UInt8 → Nat → List UInt8 → Option Char × List UInt8
  | 0,_,_,acc,rest => (some (Char.ofNat acc),rest)
  | _+1,_,_,_,[] => (none,[])
  | n+1,low,high,acc,b :: rest =>
    if low ≤ b ∧ b ≤ high then tail n 0x80 0xBF (acc*64+(b.toNat-0x80)) rest
    else (none,b :: rest)

theorem tail_length (n : Nat) (low high : UInt8) (acc : Nat) (bytes : List UInt8) :
    (tail n low high acc bytes).2.length ≤ bytes.length := by
  fun_induction tail n low high acc bytes with
  | case1 => simp
  | case2 => simp
  | case3 n low high acc b rest h ih =>
    simp only [List.length_cons]
    omega
  | case4 => simp

/-- The characters of the bytes in order, with a gap for each ill-formed stretch. -/
def pieces : List UInt8 → List (Option Char)
  | [] => []
  | b :: rest =>
    if b < 0x80 then some (Char.ofNat b.toNat) :: pieces rest
    else
      match lead b with
      | none => none :: pieces rest
      | some (n,low,high,acc) =>
        let t := tail n low high acc rest
        have := tail_length n low high acc rest
        t.1 :: pieces t.2
termination_by bytes => bytes.length

def decode? (bytes : List UInt8) : Option String :=
  let ps := pieces bytes
  if ps.all Option.isSome then some (String.ofList (ps.filterMap id)) else none

def decodeLossy (bytes : List UInt8) : String :=
  String.ofList ((pieces bytes).map (·.getD '\ufffd'))

def encode (s : String) : List UInt8 := s.toUTF8.data.toList

@[simp] theorem encode_empty : encode "" = [] := rfl

theorem encode_append (a b : String) : encode (a++b) = encode a++encode b := by
  simp [encode]

def hexDigit (n : Nat) : Char := Nat.digitChar n

def hex (bytes : List UInt8) : String :=
  String.ofList (bytes.flatMap fun b => [hexDigit (b.toNat/16),hexDigit (b.toNat%16)])

end Utf8
end ColumnarReport
