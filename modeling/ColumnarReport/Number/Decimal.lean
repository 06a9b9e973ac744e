import ColumnarReport.Number.Binary

/-! The decimals that read back to a binary number, and the shortest of them. The reals
that round to a number lie between the midpoints to its two neighbours, the midpoints
included exactly when its magnitude is even. -/
namespace ColumnarReport

open scoped Computing

/-- The number `digits * 10 ^ exponent`. -/
structure Decimal where
  digits : Nat
  exponent : Int
  deriving DecidableEq, Repr

namespace Decimal

def compareDyadic (d : Decimal) (num places : Nat) : Ordering :=
  compare (d.digits*10^d.exponent.toNat*2^places) (num*10^(-d.exponent).toNat)

def readsBack (f : BinaryFormat) (d : Decimal) (n : Nat) : Bool :=
  let low := d.compareDyadic (f.units (n-1)+f.units n) (f.scale+1)
  let high := d.compareDyadic (f.units n+f.units (n+1)) (f.scale+1)
  let even := n%2 = 0
  (low = .gt || (low = .eq && even)) && (high = .lt || (high = .eq && even))

def digitCount (n : Nat) : Nat := (Nat.toDigits 10 n).length

/-- The least `k` with `num / den < 10 ^ k`, for positive numbers. -/
def magnitude (num den : Nat) : Int :=
  if den ≤ num then digitCount (num/den)
  else if den-1 < num then 0 else 1-digitCount ((den-1)/num)

def strip : Nat → Decimal → Decimal
  | 0,d => d
  | fuel+1,d => if d.digits ≠ 0 ∧ d.digits%10 = 0 then strip fuel ⟨d.digits/10,d.exponent+1⟩ else d

/-- The multiples of `10 ^ exponent` next to `num / 2 ^ places`, below and above. -/
def neighbours (num places : Nat) (exponent : Int) : Decimal × Decimal :=
  let below := num*10^(-exponent).toNat/(2^places*10^exponent.toNat)
  (⟨below,exponent⟩,⟨below+1,exponent⟩)

/-- Where two decimals of the least length are equally near. -/
inductive Tie
  | up
  | toEven
  deriving DecidableEq, Repr

def onGrid (f : BinaryFormat) (tie : Tie) (n : Nat) (exponent : Int) : Option Decimal :=
  let (below,above) := neighbours (f.units n) f.scale exponent
  match below.readsBack f n,above.readsBack f n with
  | false,false => none
  | true,false => some below
  | false,true => some above
  | true,true =>
    match compareDyadic ⟨below.digits+above.digits,exponent⟩ (2*f.units n) f.scale,tie with
    | .gt,_ => some below
    | .lt,_ => some above
    | .eq,.up => some above
    | .eq,.toEven => some (if below.digits%2 = 0 then below else above)

/-- A decimal of the fewest digits that reads back to a positive finite magnitude, the
nearest one of that length. Where the listed lengths held none it would be the exact value. -/
def shortest (f : BinaryFormat) (tie : Tie) (n : Nat) : Decimal :=
  let top := magnitude (f.units n) (f.unitsPerOne)
  let found := (List.range (f.fractionBits/3+2)).findSome? fun (length : Nat) =>
    onGrid f tie n (top-(length+1))
  let d := found.getD ⟨f.units n*5^f.scale,-f.scale⟩
  strip (digitCount d.digits) d

end Decimal
end ColumnarReport
