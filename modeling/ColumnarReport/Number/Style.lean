import ColumnarReport.Number.Decimal

/-! Layouts of floating-point text: which exponents are written positionally, and whether
a whole number keeps a fractional digit. -/
namespace ColumnarReport

structure FloatStyle where
  /-- Exponents of the leading digit, first and past the last, that are written positionally. -/
  positional : Option (Int × Int)
  pointZero : Bool
  tie : Decimal.Tie

namespace FloatStyle

def zeros (n : Nat) : String := String.ofList (List.replicate n '0')

def plain (digits : List Char) (exponent : Int) (pointZero : Bool) : String :=
  let whole := digits.length+exponent
  if 0 ≤ exponent then
    String.ofList digits++zeros exponent.toNat++(if pointZero then ".0" else "")
  else if 0 < whole then
    String.ofList (digits.take whole.toNat)++"."++String.ofList (digits.drop whole.toNat)
  else
    "0."++zeros (-whole).toNat++String.ofList digits

def scientific (digits : List Char) (exponent : Int) : String :=
  let fraction := digits.drop 1
  String.ofList (digits.take 1)++(if fraction.isEmpty then "" else "."++String.ofList fraction)
    ++"e"++toString exponent

def writeDecimal (s : FloatStyle) (d : Decimal) : String :=
  let digits := Nat.toDigits 10 d.digits
  let leading := digits.length+d.exponent-1
  let inside := match s.positional with
    | none => true
    | some (first,past) => decide (first ≤ leading ∧ leading < past)
  if inside then plain digits d.exponent s.pointZero else scientific digits leading

def write (s : FloatStyle) {f : BinaryFormat} (x : Binary f) : String :=
  if x.isNaN then "NaN"
  else
    (if x.negative then "-" else "")++
    (if x.isInfinite then "inf"
    else if x.magnitude.val = 0 then (if s.pointZero then "0.0" else "0")
    else s.writeDecimal (Decimal.shortest f s.tie x.magnitude))

end FloatStyle

namespace Binary

/-- A number with two decimals: the exact value rounded once, a half to the even neighbour. -/
def twoDecimals {f : BinaryFormat} (x : Binary f) : String :=
  if x.isNaN then "NaN"
  else
    (if x.negative then "-" else "")++
    (if x.isInfinite then "inf"
    else
      let hundredths := roundQuotient (x.units*100) (f.unitsPerOne)
      toString (hundredths/100)++"."++toString (hundredths/10%10)++toString (hundredths%10))

end Binary
end ColumnarReport
