import ColumnarReport.Arrow.CellText
import ColumnarReport.Cell

/-! Report cells from arrays. Booleans, integers, single and double floats and strings keep
their values; every other type gives the text of its slots. -/
namespace ColumnarReport
namespace Arrow

inductive DecodeError
  | invalidZone (zone : String)
  | notFormatted (type : DataType)
  deriving DecidableEq

def DecodeError.message : DecodeError → String
  | .invalidZone zone =>
    "Parser error: Invalid timezone \""++zone++"\": failed to parse timezone"
  | .notFormatted type =>
    "Not yet implemented: formatting "++type.text++" is not yet supported"

variable [ZoneDatabase]

def ScalarType.fault? : ScalarType → Option DecodeError
  | .timestamp _ (some zone) =>
    if (TimeZone.offsetAt? zone).isSome then none else some (.invalidZone zone)
  | _ => none

mutual

/-- The first part of a type that has no text, if there is one. -/
def DataType.fault? : DataType → Option DecodeError
  | .null => none
  | .scalar t => t.fault?
  | .list .list item => item.fault?
  | .list .largeList item => item.fault?
  | .list kind item => some (.notFormatted (.list kind item))
  | .fixedSizeList item _ => item.fault?
  | .struct fields => fields.fault?
  | .map entries _ => entries.fault?
  | .dictionary _ value => value.fault?
  | .runEndEncoded _ values => values.fault?
  | .union _ _ fields => fields.fault?

def Field.fault? : Field → Option DecodeError
  | .mk _ type _ => type.fault?

def Fields.fault? : Fields → Option DecodeError
  | .nil => none
  | .cons f fs => f.fault?.or fs.fault?

end

/-- How the values of a scalar type become cells, for types that keep their values. -/
def direct? : (t : ScalarType) → Option (t.Carrier → Cell)
  | .boolean => some .bool
  | .integer .uint64 => some fun v => .uint (.ofNat v.val.toNat)
  | .integer _ => some fun v => .int (.ofInt v.val)
  | .float .single => some fun v => .float (v.convert .double)
  | .float .double => some fun v => .float v
  | .utf8 _ => some .text
  | _ => none

def shownCell {t : DataType} (s : Slots t) (i : Nat) : Cell :=
  if s.isNull i then .null else .other (s.text i).shown

def shownCells {t : DataType} (s : Slots t) : Except DecodeError (List Cell) :=
  match t.fault? with
  | some e => .error e
  | none => .ok ((List.range s.length).map (shownCell s))

def cells {t : DataType} (s : Slots t) : Except DecodeError (List Cell) :=
  match s with
  | .null n => .ok (List.replicate n .null)
  | .scalar (t := t) values =>
    match direct? t with
    | some f => .ok (values.map fun v => (v.map f).getD .null)
    | none => shownCells (.scalar values)
  | s => shownCells s

end Arrow
end ColumnarReport
