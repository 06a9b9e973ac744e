import ColumnarReport.Arrow.Slots
import ColumnarReport.Parquet.Metadata
import ColumnarReport.Parquet.Schema

/-! The leaves of an array: what each leaf of its node stores for a run of slots, one entry for
each value and one empty entry for each null or empty list above the leaf. -/
namespace ColumnarReport

open scoped Computing
namespace Parquet

open Arrow (DataType Field Fields ScalarType Slots Columns runAt)

/-- An integer as a stored value; words and bytes keep its low bits. -/
def integerValue : (t : PhysicalType) → Int → t.Value
  | .boolean,i => i != 0
  | .int32,i => .ofInt i
  | .int64,i => .ofInt i
  | .int96,i => (.ofInt i,.ofInt (i/UInt32.size),.ofInt (i/UInt64.size))
  | .float,i => .ofInt i
  | .double,i => .ofInt i
  | .bytes,i => ByteOrder.bigSigned 16 i
  | .fixedBytes size,i => ByteOrder.bigSigned size i

def intervalValue (months days milliseconds : Int) : List UInt8 :=
  [months,days,milliseconds].flatMap fun (i : Int) =>
    ByteOrder.little 4 (i%UInt32.size).toNat

def storedValue : (t : ScalarType) → t.Carrier → (physical t).Value
  | .boolean,v => v
  | .integer _,v => integerValue _ v.val
  | .float .half,v => ByteOrder.little 2 v.toBits
  | .float .single,v => v
  | .float .double,v => v
  | .utf8 _,v => Utf8.encode v
  | .binary _,v => v
  | .fixedBinary _,v => v
  | .date32,v => integerValue .int32 v.val
  | .date64,v => integerValue .int64 v.val
  | .time32 _,v => integerValue .int32 v.val
  | .time64 _,v => integerValue .int64 v.val
  | .timestamp _ _,v => integerValue .int64 v.val
  | .duration _,v => integerValue .int64 v.val
  | .yearMonth,v => intervalValue v.val 0 0
  | .dayTime,v => intervalValue 0 v.1 v.2
  | .monthDayNano,v => intervalValue v.1 v.2.1 (v.2.2/1000000)
  | .decimal _ _ _,v => integerValue _ v.val

structure Leaf where
  path : List String
  physical : PhysicalType
  order : ValueOrder
  greatestKey : Option Nat
  entries : List (Option physical.Value)

def blankValue : (t : PhysicalType) → t.Value
  | .boolean => false
  | .int32 => 0
  | .int64 => 0
  | .int96 => (0,0,0)
  | .float => .zero false
  | .double => .zero false
  | .bytes => []
  | .fixedBytes size => List.replicate size 0

def byteStrings : (t : PhysicalType) → List (Option t.Value) → List (List UInt8)
  | .bytes,entries => entries.filterMap id
  | .fixedBytes _,entries => entries.filterMap id
  | _,_ => []

namespace Leaf

def filled (l : Leaf) : Leaf :=
  { l with entries := l.entries.map fun e => some (e.getD (blankValue l.physical)) }

/-- Whether byte strings of a dictionary outnumber its keys. As many values as the greatest key
are the most that are read. -/
def exceedsKeys (l : Leaf) : Bool :=
  match l.greatestKey with
  | none => false
  | some most =>
    let values := byteStrings l.physical l.entries
    decide (most < values.length) && decide (most < values.eraseDups.length)

def statistics (l : Leaf) : Statistics l.physical := .ofEntries l.physical l.order l.entries

end Leaf

/-- The positions of a child's slots; a null or an empty list leaves one empty position. -/
def childPositions (range : Nat → Option (Nat × Nat)) (positions : List (Option Nat)) :
    List (Option Nat) :=
  positions.flatMap fun p =>
    match p.bind range with
    | some (start,len+1) => (List.range' start (len+1)).map some
    | _ => [none]

def ofRanges (ranges : List (Option (Nat × Nat))) (i : Nat) : Option (Nat × Nat) := ranges[i]?.join

mutual

def slotLeaves {t : DataType} (s : Slots t) (path : List String) (positions : List (Option Nat)) :
    List Leaf :=
  match s with
  | .null _ => [⟨path,.int32,.natural,none,positions.map fun _ => none⟩]
  | .scalar (t := t) values =>
    [⟨path,physical t,valueOrder (logicalType t),none,
      positions.map fun p => (p.bind fun i => values[i]?.join).map (storedValue t)⟩]
  | @Slots.list _ item ranges child =>
    slotLeaves child (path++["list",item.name]) (childPositions (ofRanges ranges) positions)
  | @Slots.fixedSizeList item size present child =>
    slotLeaves child (path++["list",item.name]) (childPositions
      (fun i => if present[i]?.getD false then some (i*size.toNat,size.toNat) else none) positions)
  | .struct present columns =>
    columnLeaves columns path (positions.map fun p => p.filter fun i => present[i]?.getD false)
  | @Slots.map entries _ ranges child =>
    slotLeaves child (path++[entries.name]) (childPositions (ofRanges ranges) positions)
  | @Slots.dictionary key _ keys values =>
    (slotLeaves values path (positions.map fun p => p.bind fun i => keys[i]?.join)).map fun l =>
      { l with greatestKey := key.greatestKey? }
  | .runs ends offset _ values =>
    slotLeaves values path (positions.map fun p => p.map fun i => runAt ends (offset+i))
  | .union _ _ => []

def columnLeaves {fs : Fields} (c : Columns fs) (path : List String)
    (positions : List (Option Nat)) : List Leaf :=
  match c with
  | .nil => []
  | .cons (f := f) head tail =>
    slotLeaves head (path++[f.name]) positions++columnLeaves tail path positions

end

/-- Whether arrays of a type have a single leaf and no slots of their own above it. -/
def isLeaf : DataType → Bool
  | .null | .scalar _ | .dictionary _ _ | .runEndEncoded _ _ => true
  | _ => false

def fileLeaves {fs : Fields} (c : Columns fs) (positions : List (Option Nat)) : List Leaf :=
  match c with
  | .nil => []
  | .cons (f := f) head tail =>
    let leaves := slotLeaves head [f.name] positions
    (if isLeaf f.type && !f.nullable then leaves.map Leaf.filled else leaves)++
    fileLeaves tail positions

end Parquet
end ColumnarReport
