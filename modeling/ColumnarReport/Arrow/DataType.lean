import ColumnarReport.Number.Binary

/-! Types of columnar arrays: scalars, and the types built from fields. -/
namespace ColumnarReport

open scoped Computing
namespace Arrow

inductive IntegerType
  | int8
  | int16
  | int32
  | int64
  | uint8
  | uint16
  | uint32
  | uint64
  deriving DecidableEq, Repr

namespace IntegerType

def signed : IntegerType → Bool
  | int8 | int16 | int32 | int64 => true
  | _ => false

def bits : IntegerType → Nat
  | int8 | uint8 => 8
  | int16 | uint16 => 16
  | int32 | uint32 => 32
  | int64 | uint64 => 64

end IntegerType

inductive FloatType
  | half
  | single
  | double
  deriving DecidableEq, Repr

def FloatType.format : FloatType → BinaryFormat
  | half => .half
  | single => .single
  | double => .double

/-- How variable-length bytes are stored: with short or long offsets, or as views. -/
inductive Storage
  | short
  | long
  | view
  deriving DecidableEq, Repr

inductive TimeUnit
  | second
  | millisecond
  | microsecond
  | nanosecond
  deriving DecidableEq, Repr

def TimeUnit.perSecond : TimeUnit → Nat
  | second => 1
  | millisecond => 1000
  | microsecond => 1000000
  | nanosecond => 1000000000

inductive DecimalWidth
  | w32
  | w64
  | w128
  | w256
  deriving DecidableEq, Repr

def DecimalWidth.bits : DecimalWidth → Nat
  | w32 => 32
  | w64 => 64
  | w128 => 128
  | w256 => 256

inductive ScalarType
  | boolean
  | integer (t : IntegerType)
  | float (t : FloatType)
  | utf8 (storage : Storage)
  | binary (storage : Storage)
  | fixedBinary (size : Int)
  | date32
  | date64
  | time32 (unit : TimeUnit)
  | time64 (unit : TimeUnit)
  | timestamp (unit : TimeUnit) (zone : Option String)
  | duration (unit : TimeUnit)
  | yearMonth
  | dayTime
  | monthDayNano
  | decimal (width : DecimalWidth) (precision : Nat) (scale : Int)
  deriving DecidableEq, Repr

structure FixedInt (signed : Bool) (bits : Nat) where
  val : Int
  above : (if signed then -2^(bits-1) else 0) ≤ val
  below : val < (if signed then 2^(bits-1) else 2^bits)
  deriving DecidableEq

namespace FixedInt

def ofInt? (signed : Bool) (bits : Nat) (i : Int) : Option (FixedInt signed bits) :=
  if h : (if signed then -2^(bits-1) else 0) ≤ i ∧ i < (if signed then 2^(bits-1) else 2^bits) then
    some ⟨i,h.1,h.2⟩
  else none

theorem bmod_within (bits : Nat) (i : Int) :
    -2^(bits-1) ≤ i.bmod (2^bits) ∧ i.bmod (2^bits) < 2^(bits-1) := by
  cases bits with
  | zero => simp
  | succ k =>
    have low := Int.le_bmod (x := i) (m := 2^(k+1)) (Nat.two_pow_pos _)
    have high := Int.bmod_lt (x := i) (m := 2^(k+1)) (Nat.two_pow_pos _)
    have half : ((2^(k+1) : Nat) : Int) = 2*2^k := by simp [Nat.pow_succ,Int.mul_comm]
    simp only [Nat.add_sub_cancel]
    omega

/-- The low bits of an integer, read as a signed number. -/
def wrap (bits : Nat) (i : Int) : FixedInt true bits where
  val := i.bmod (2^bits)
  above := (bmod_within bits i).1
  below := (bmod_within bits i).2

end FixedInt

abbrev ScalarType.Carrier : ScalarType → Type
  | boolean => Bool
  | integer t => FixedInt t.signed t.bits
  | float t => Binary t.format
  | utf8 _ => String
  | binary _ | fixedBinary _ => List UInt8
  | date32 | time32 _ | yearMonth => FixedInt true 32
  | date64 | time64 _ | timestamp _ _ | duration _ => FixedInt true 64
  | dayTime => Int × Int
  | monthDayNano => Int × Int × Int
  | decimal width _ _ => FixedInt true width.bits

inductive ListKind
  | list
  | largeList
  | listView
  | largeListView
  deriving DecidableEq, Repr

inductive UnionMode
  | sparse
  | dense
  deriving DecidableEq, Repr

mutual

inductive DataType
  | null
  | scalar (t : ScalarType)
  | list (kind : ListKind) (item : Field)
  /-- A type may name a negative size, but its arrays have no items then. -/
  | fixedSizeList (item : Field) (size : Int)
  | struct (fields : Fields)
  /-- The entries are a structure of keys and values. -/
  | map (entries : Field) (sorted : Bool)
  | dictionary (key value : DataType)
  | runEndEncoded (runEnds values : Field)
  | union (mode : UnionMode) (ids : List Int) (fields : Fields)

inductive Field
  | mk (name : String) (type : DataType) (nullable : Bool)

inductive Fields
  | nil
  | cons (head : Field) (tail : Fields)

end

deriving instance DecidableEq for DataType
deriving instance DecidableEq for Field
deriving instance DecidableEq for Fields

namespace Field

def name : Field → String
  | mk n _ _ => n

def type : Field → DataType
  | mk _ t _ => t

def nullable : Field → Bool
  | mk _ _ b => b

end Field

namespace Fields

def ofList : List Field → Fields
  | [] => nil
  | f :: fs => cons f (ofList fs)

def toList : Fields → List Field
  | nil => []
  | cons f fs => f :: fs.toList

@[simp] theorem toList_ofList (fs : List Field) : (ofList fs).toList = fs := by
  induction fs <;> simp_all [ofList,toList]

end Fields
end Arrow
end ColumnarReport
