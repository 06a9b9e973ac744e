import ColumnarReport.Instances

/-! Binary floating-point numbers as a sign and a magnitude on an integer grid.
The magnitude is the encoding without its sign bit, so larger magnitudes are larger
numbers, and every finite number is a whole multiple of the least positive one. All
arithmetic is exact on that grid and rounded once, to nearest with ties to even. -/
namespace ColumnarReport

open scoped Computing

/-- The widths in bits of the exponent and of the trailing fraction. -/
structure BinaryFormat where
  exponentBits : Nat
  fractionBits : Nat
  deriving DecidableEq, Repr

namespace BinaryFormat

def half : BinaryFormat := ⟨5,10⟩
def single : BinaryFormat := ⟨8,23⟩
def double : BinaryFormat := ⟨11,52⟩

def magnitudes (f : BinaryFormat) : Nat := 2^(f.exponentBits+f.fractionBits)

/-- The magnitude of infinity; larger ones are not numbers. -/
def infinity (f : BinaryFormat) : Nat := (2^f.exponentBits-1)*2^f.fractionBits

/-- The least positive number is `2 ^ -scale`. -/
def scale (f : BinaryFormat) : Nat := 2^(f.exponentBits-1)-2+f.fractionBits

def unitsPerOne (f : BinaryFormat) : Nat := 2^f.scale

theorem infinity_lt (f : BinaryFormat) : f.infinity < f.magnitudes := by
  have h : 0 < 2^f.fractionBits := Nat.two_pow_pos _
  have h' : 0 < 2^f.exponentBits := Nat.two_pow_pos _
  rw [infinity,magnitudes,Nat.pow_add]
  exact Nat.mul_lt_mul_of_pos_right (by omega) h

/-- The number with this magnitude, in units of the least positive number. -/
def units (f : BinaryFormat) (n : Nat) : Nat :=
  let e := n/2^f.fractionBits
  let r := n%2^f.fractionBits
  if e = 0 then r else (2^f.fractionBits+r)*2^(e-1)

end BinaryFormat

/-- The whole number nearest to `num / den`; a half goes to the even neighbour. -/
def roundQuotient (num den : Nat) : Nat :=
  let q := num/den
  let r := num%den
  if 2*r < den then q
  else if den < 2*r then q+1
  else if q%2 = 0 then q else q+1

namespace BinaryFormat

/-- The magnitude nearest to `num / den` units; overflow gives infinity. A unit in the last
place is `2 ^ shift` units of the grid, and the magnitudes of one binade are consecutive. -/
def nearest (f : BinaryFormat) (num den : Nat) : Nat :=
  let shift := (num/den).log2-f.fractionBits
  min (shift*2^f.fractionBits+roundQuotient num (den*2^shift)) f.infinity

theorem nearest_lt (f : BinaryFormat) (num den : Nat) : f.nearest num den < f.magnitudes :=
  Nat.lt_of_le_of_lt (Nat.min_le_right _ _) f.infinity_lt

end BinaryFormat

structure Binary (f : BinaryFormat) where
  negative : Bool
  magnitude : Fin f.magnitudes
  deriving DecidableEq

abbrev Half := Binary .half
abbrev Single := Binary .single
abbrev Double := Binary .double

namespace Binary

variable {f : BinaryFormat}

def ofBits (f : BinaryFormat) (bits : Nat) : Binary f :=
  ⟨bits.testBit (f.exponentBits+f.fractionBits),
    ⟨bits%f.magnitudes,Nat.mod_lt _ (Nat.two_pow_pos _)⟩⟩

def toBits (x : Binary f) : Nat :=
  (if x.negative then f.magnitudes else 0)+x.magnitude

def isNaN (x : Binary f) : Bool := decide (f.infinity < x.magnitude)
def isInfinite (x : Binary f) : Bool := decide (x.magnitude.val = f.infinity)
def isFinite (x : Binary f) : Bool := decide (x.magnitude < f.infinity)

def units (x : Binary f) : Nat := f.units x.magnitude

def signedUnits (x : Binary f) : Int := if x.negative then -x.units else x.units

def round (negative : Bool) (num den : Nat) : Binary f :=
  ⟨negative,⟨f.nearest num den,f.nearest_lt num den⟩⟩

def zero (negative : Bool) : Binary f := ⟨negative,⟨0,Nat.two_pow_pos _⟩⟩
def infinite (negative : Bool) : Binary f := ⟨negative,⟨f.infinity,f.infinity_lt⟩⟩

def nan : Binary f :=
  ⟨false,⟨(f.infinity+2^(f.fractionBits-1))%f.magnitudes,Nat.mod_lt _ (Nat.two_pow_pos _)⟩⟩

def ofInt (i : Int) : Binary f := round (decide (i < 0)) (i.natAbs*f.unitsPerOne) 1

/-- The total order on encodings: negative ones below positive ones, larger magnitudes
further out, and not-a-numbers beyond the infinities. -/
def orderKey (x : Binary f) : Int :=
  if x.negative then -(x.magnitude+1) else x.magnitude

def totalCompare (x y : Binary f) : Ordering := compare x.orderKey y.orderKey

/-- A sum that cancels to zero is positive unless both terms are negative. -/
def add (x y : Binary f) : Binary f :=
  if x.isNaN || y.isNaN then nan
  else if x.isInfinite then
    if y.isInfinite && x.negative != y.negative then nan else x
  else if y.isInfinite then y
  else
    let s := x.signedUnits+y.signedUnits
    round (if s = 0 then x.negative && y.negative else decide (s < 0)) s.natAbs 1

def div (x y : Binary f) : Binary f :=
  let negative := x.negative != y.negative
  if x.isNaN || y.isNaN then nan
  else if x.isInfinite then if y.isInfinite then nan else infinite negative
  else if y.isInfinite then zero negative
  else if y.units = 0 then if x.units = 0 then nan else infinite negative
  else round negative (x.units*f.unitsPerOne) y.units

/-- The same number in another format. A not-a-number keeps its sign and the leading bits
of its payload and becomes quiet. -/
def convert (g : BinaryFormat) (x : Binary f) : Binary g :=
  if x.isNaN then
    let quiet := 2^(f.fractionBits-1)
    let payload := ((x.magnitude-f.infinity)%quiet+quiet)*2^(g.fractionBits-f.fractionBits)
    ⟨x.negative,⟨(g.infinity+payload)%g.magnitudes,Nat.mod_lt _ (Nat.two_pow_pos _)⟩⟩
  else if x.isInfinite then infinite x.negative
  else round x.negative (x.units*g.unitsPerOne) (f.unitsPerOne)

end Binary
end ColumnarReport
