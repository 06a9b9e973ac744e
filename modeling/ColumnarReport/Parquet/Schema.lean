import ColumnarReport.Arrow.Slots
import ColumnarReport.Parquet.Physical
import ColumnarReport.Text.Lines

/-! The schema of a file: a tree of groups and leaves, built from the fields of the arrays. -/
namespace ColumnarReport

open scoped Computing
namespace Parquet

open Arrow (DataType Field Fields ScalarType IntegerType TimeUnit)

inductive Repetition
  | once
  | atMostOnce
  | repeated
  deriving DecidableEq, Repr

def Repetition.text : Repetition → String
  | once => "REQUIRED"
  | atMostOnce => "OPTIONAL"
  | repeated => "REPEATED"

inductive Tick
  | millisecond
  | microsecond
  | nanosecond
  deriving DecidableEq, Repr

def Tick.text : Tick → String
  | millisecond => "MILLIS"
  | microsecond => "MICROS"
  | nanosecond => "NANOS"

/-- Whole seconds have no stored form of their own. -/
def tick? : TimeUnit → Option Tick
  | .second => none
  | .millisecond => some .millisecond
  | .microsecond => some .microsecond
  | .nanosecond => some .nanosecond

inductive LogicalType
  | string
  | integer (bits : Nat) (signed : Bool)
  | date
  | time (tick : Tick)
  | timestamp (tick : Tick) (universal : Bool)
  | decimal (precision : Nat) (scale : Int)
  | unknown
  | half
  | interval
  | list
  | map
  deriving DecidableEq, Repr

def LogicalType.text : LogicalType → String
  | string => "STRING"
  | integer bits signed => s!"INTEGER({bits},{signed})"
  | date => "DATE"
  | time tick => s!"TIME({tick.text},false)"
  | timestamp tick universal => s!"TIMESTAMP({tick.text},{universal})"
  | decimal precision scale => s!"DECIMAL({precision},{scale})"
  | unknown => "UNKNOWN"
  | half => "FLOAT16"
  | interval => "INTERVAL"
  | list => "LIST"
  | map => "MAP"

mutual

inductive Node
  | leaf (name : String) (repetition : Repetition) (physical : PhysicalType)
      (logicalType : Option LogicalType)
  | group (name : String) (repetition : Repetition) (logicalType : Option LogicalType)
      (children : Nodes)

inductive Nodes
  | nil
  | cons (head : Node) (tail : Nodes)

end

/-- The least number of bytes whose signed integers reach ten to the precision. -/
def decimalSize (precision : Nat) : Nat := ((10^precision).log2+1+1+7)/8

def decimalPhysical (precision : Nat) : PhysicalType :=
  if 1 < precision ∧ precision ≤ 9 then .int32
  else if precision ≤ 18 then .int64
  else .fixedBytes (decimalSize precision)

def intervalSize : Nat := 12

def physical : ScalarType → PhysicalType
  | .boolean => .boolean
  | .integer t => if t.bits ≤ 32 then .int32 else .int64
  | .float .half => .fixedBytes 2
  | .float .single => .float
  | .float .double => .double
  | .utf8 _ | .binary _ => .bytes
  | .fixedBinary size => .fixedBytes size.toNat
  | .date32 | .time32 _ => .int32
  | .date64 | .time64 _ | .timestamp _ _ | .duration _ => .int64
  | .yearMonth | .dayTime | .monthDayNano => .fixedBytes intervalSize
  | .decimal _ precision _ => decimalPhysical precision

/-- A moment with a named zone is counted in universal time. -/
def isUniversal : Option String → Bool
  | some zone => zone != ""
  | none => false

def logicalType : ScalarType → Option LogicalType
  | .integer .int32 | .integer .int64 => none
  | .integer t => some (.integer t.bits t.signed)
  | .float .half => some .half
  | .utf8 _ => some .string
  | .date32 => some .date
  | .time32 unit | .time64 unit => (tick? unit).map .time
  | .timestamp unit zone => (tick? unit).map (.timestamp · (isUniversal zone))
  | .yearMonth | .dayTime | .monthDayNano => some .interval
  | .decimal _ precision scale => some (.decimal precision scale)
  | _ => none

/-- The order of a column's values, from what they mean. -/
def valueOrder : Option LogicalType → ValueOrder
  | some (.integer _ false) => .unsigned
  | some (.decimal _ _) => .integerBytes
  | some .half => .halfBytes
  | some .interval => .unordered
  | _ => .natural

def single (n : Node) : Nodes := .cons n .nil

mutual

/-- The node of a type. Dictionaries and runs are stored as their values. -/
def typeNode (name : String) (repetition : Repetition) : DataType → Node
  | .null => .leaf name repetition .int32 (some .unknown)
  | .scalar t => .leaf name repetition (physical t) (logicalType t)
  | .list _ item => .group name repetition (some .list) (single
      (.group "list" .repeated none (single (fieldNode item))))
  | .fixedSizeList item _ => .group name repetition (some .list) (single
      (.group "list" .repeated none (single (fieldNode item))))
  | .struct fields => .group name repetition none (fieldNodes fields)
  | .map (.mk entries (.struct fields) _) _ => .group name repetition (some .map) (single
      (.group entries .repeated none (fieldNodes fields)))
  | .map entries _ => .group name repetition (some .map) (single (fieldNode entries))
  | .dictionary _ value => typeNode name repetition value
  | .runEndEncoded _ (.mk _ value _) => typeNode name repetition value
  | .union _ _ fields => .group name repetition none (fieldNodes fields)

def fieldNode : Field → Node
  | .mk name type nullable => typeNode name (if nullable then .atMostOnce else .once) type

def fieldNodes : Fields → Nodes
  | .nil => .nil
  | .cons f fs => .cons (fieldNode f) (fieldNodes fs)

end

def indentation (n : Nat) : String := String.ofList (List.replicate n ' ')

def noted (a : Option LogicalType) : String :=
  match a with
  | none => ""
  | some a => "("++a.text++")"

mutual

def Node.lines (indent : Nat) : Node → List String
  | .leaf name repetition physical a =>
    [indentation indent++repetition.text++" "++physical.schemaText++" "++name++
      (if a.isSome then " "++noted a else "")++";"]
  | .group name repetition a children =>
    [indentation indent++repetition.text++" group "++name++" "++
      (if a.isSome then noted a++" " else "")++"\x7b"]++
    children.lines (indent+2)++[indentation indent++"\x7d"]

def Nodes.lines (indent : Nat) : Nodes → List String
  | .nil => []
  | .cons head tail => head.lines indent++tail.lines indent

end

def schemaText (fields : Fields) : String :=
  Text.unlines (["message arrow_schema \x7b"]++(fieldNodes fields).lines 2++["\x7d"])

end Parquet
end ColumnarReport
