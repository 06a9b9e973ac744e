import ColumnarReport.Arrow.TypeText
import ColumnarReport.Parquet.Schema

/-! Types that a file keeps but that its values are not read with. -/
namespace ColumnarReport

open scoped Computing
namespace Parquet

open Arrow (DataType Field Fields ScalarType DecimalWidth)

inductive ReadFault
  | tooPrecise (precision most : Nat)
  /-- The values of a dictionary of the narrowest decimals stand in long words. -/
  | longDecimals
  | notPacked (value : DataType)
  | tooManyValues
  deriving DecidableEq

def ReadFault.message (e : ReadFault) : String :=
  "Parquet argument error: "++
  match e with
  | tooPrecise precision most =>
    s!"External: Invalid argument error: precision {precision} is greater than max {most}"
  | longDecimals => "Arrow: Cannot convert Int64 to decimal dictionary"
  | notPacked value =>
    "External: Cast error: Unsupported output type for dictionary packing: "++value.text
  | tooManyValues => "Parquet error: dictionary too large for index type"

def mostDigits : DecimalWidth → Nat
  | .w32 => 9
  | .w64 => 18
  | .w128 => 38
  | .w256 => 76

def scalarReadFault? : ScalarType → Option ReadFault
  | .decimal width precision _ =>
    if mostDigits width < precision then some (.tooPrecise precision (mostDigits width)) else none
  | _ => none

def dictionaryReadFault? (value : DataType) : Option ReadFault :=
  match value with
  | .null | .scalar (.duration _) => some (.notPacked value)
  | .scalar (.decimal .w32 precision _) =>
    if decimalPhysical precision = .int64 then some .longDecimals else none
  | _ => none

mutual

/-- The fault of the first leaf of a type that is not read. -/
def typeReadFault? : DataType → Option ReadFault
  | .null => none
  | .scalar t => scalarReadFault? t
  | .list _ item => fieldReadFault? item
  | .fixedSizeList item _ => fieldReadFault? item
  | .struct fields => fieldsReadFault? fields
  | .map entries _ => fieldReadFault? entries
  | .dictionary _ value => dictionaryReadFault? value
  | .runEndEncoded _ values => fieldReadFault? values
  | .union _ _ fields => fieldsReadFault? fields

def fieldReadFault? : Field → Option ReadFault
  | .mk _ type _ => typeReadFault? type

def fieldsReadFault? : Fields → Option ReadFault
  | .nil => none
  | .cons f fs => (fieldReadFault? f).or (fieldsReadFault? fs)

end

end Parquet
end ColumnarReport
