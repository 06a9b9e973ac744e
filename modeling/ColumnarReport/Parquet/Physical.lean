import ColumnarReport.Cell
import ColumnarReport.Number.ByteOrder
import ColumnarReport.Text.Utf8

/-! Stored values: the physical types of a file, the text of their values, and the orders by
which the values of a column are compared. -/
namespace ColumnarReport
namespace Parquet

inductive PhysicalType
  | boolean
  | int32
  | int64
  | int96
  | float
  | double
  | bytes
  | fixedBytes (size : Nat)
  deriving DecidableEq, Repr

namespace PhysicalType

abbrev Value : PhysicalType → Type
  | boolean => Bool
  | int32 => Int32
  | int64 => Int64
  | int96 => UInt32 × UInt32 × UInt32
  | float => Single
  | double => Double
  | bytes | fixedBytes _ => List UInt8

def text : PhysicalType → String
  | boolean => "BOOLEAN"
  | int32 => "INT32"
  | int64 => "INT64"
  | int96 => "INT96"
  | float => "FLOAT"
  | double => "DOUBLE"
  | bytes => "BYTE_ARRAY"
  | fixedBytes _ => "FIXED_LEN_BYTE_ARRAY"

def schemaText : PhysicalType → String
  | fixedBytes size => s!"FIXED_LEN_BYTE_ARRAY ({size})"
  | t => t.text

end PhysicalType

/-- Bytes that are well-formed text are that text; all others are written in hexadecimal. -/
def bytesText (bytes : List UInt8) : String :=
  match Utf8.decode? bytes with
  | some text => text
  | none => "0x"++Utf8.hex bytes

def valueText : (t : PhysicalType) → t.Value → String
  | .boolean,v => if v then "true" else "false"
  | .int32,v => toString v.toInt
  | .int64,v => toString v.toInt
  | .int96,v => s!"Int96 \x7b value: [{v.1.toNat}, {v.2.1.toNat}, {v.2.2.toNat}] \x7d"
  | .float,v => Cell.floatStyle.write v
  | .double,v => Cell.floatStyle.write v
  | .bytes,v => bytesText v
  | .fixedBytes _,v => bytesText v

inductive ValueOrder
  | natural
  | unsigned
  | integerBytes
  | halfBytes
  | unordered
  deriving DecidableEq, Repr

/-- A key that compares like the number: the zeros are equal, and what is not a number has none. -/
def numberKey {f : BinaryFormat} (x : Binary f) : Option (List Int) :=
  if x.isNaN then none else some [if x.negative then -(x.magnitude : Int) else x.magnitude]

def bytesKey (bytes : List UInt8) : ValueOrder → Option (List Int)
  | .integerBytes => some [ByteOrder.ofBigSigned bytes]
  | .halfBytes => numberKey (.ofBits .half (ByteOrder.ofLittle bytes))
  | .unordered => none
  | _ => some (bytes.map fun b => (b.toNat : Int))

/-- Keys compare as the values of the column do; a value without a key bounds nothing. -/
def valueKey : (t : PhysicalType) → ValueOrder → t.Value → Option (List Int)
  | .boolean,_,v => some [if v then 1 else 0]
  | .int32,o,v => some [if o = .unsigned then v.toUInt32.toNat else v.toInt]
  | .int64,o,v => some [if o = .unsigned then v.toUInt64.toNat else v.toInt]
  | .int96,_,_ => none
  | .float,_,v => numberKey v
  | .double,_,v => numberKey v
  | .bytes,o,v => bytesKey v o
  | .fixedBytes _,o,v => bytesKey v o

/-- A zero as a bound takes the sign that lets the bound hold for both zeros. -/
def widenZero : (t : PhysicalType) → ValueOrder → Bool → t.Value → t.Value
  | .float,_,negative,v => if v.magnitude.val = 0 then .zero negative else v
  | .double,_,negative,v => if v.magnitude.val = 0 then .zero negative else v
  | .fixedBytes _,.halfBytes,negative,v =>
    if bytesKey v .halfBytes = some [0] then
      ByteOrder.little 2 (Binary.zero negative : Half).toBits
    else v
  | _,_,_,v => v

end Parquet
end ColumnarReport
