import ColumnarReport.Instances

/-! Whole numbers as bytes, the least or the greatest byte first. -/
namespace ColumnarReport

open scoped Computing
namespace ByteOrder

def little : Nat → Nat → List UInt8
  | 0,_ => []
  | size+1,n => UInt8.ofNat n :: little size (n/256)

def big (size n : Nat) : List UInt8 := (little size n).reverse

def ofLittle : List UInt8 → Nat
  | [] => 0
  | b :: rest => b.toNat+256*ofLittle rest

def ofBig (bytes : List UInt8) : Nat := ofLittle bytes.reverse

def bigSigned (size : Nat) (i : Int) : List UInt8 := big size (i%(256^size : Nat)).toNat

def ofBigSigned (bytes : List UInt8) : Int := (ofBig bytes : Int).bmod (256^bytes.length)

end ByteOrder
end ColumnarReport
