import ColumnarReport.Arrow.Batch
import ColumnarReport.Parquet.Schema

/-! Arrays as a file stores them. Storing keeps the types, except that an empty zone is none, and
the slots, except for numbers that their stored form does not hold and for nulls where every slot
stores a value. -/
namespace ColumnarReport

open scoped Computing
namespace Parquet

open Arrow (DataType Field Fields ScalarType DecimalWidth FixedInt Slots Columns Batch)

def storedScalar : ScalarType → ScalarType
  | .timestamp unit zone => .timestamp unit (if isUniversal zone then zone else none)
  | t => t

/-- The number in the stored form of a decimal. Words and bytes keep the low bits; the narrowest
decimals leave their fraction behind in a long word. -/
def storedDecimal (width : DecimalWidth) (precision : Nat) (scale : Int) (value : Int) : Int :=
  match decimalPhysical precision with
  | .int32 => value.bmod UInt32.size
  | .int64 => if width = .w32 then value.tdiv (10^scale.toNat : Nat) else value.bmod UInt64.size
  | .fixedBytes size => value.bmod (2^(8*size))
  | _ => value

def storedCarrier : (t : ScalarType) → t.Carrier → (storedScalar t).Carrier
  | .boolean,v => v
  | .integer _,v => v
  | .float _,v => v
  | .utf8 _,v => v
  | .binary _,v => v
  | .fixedBinary _,v => v
  | .date32,v => v
  | .date64,v => v
  | .time32 _,v => v
  | .time64 _,v => v
  | .timestamp _ _,v => v
  | .duration _,v => v
  | .yearMonth,v => v
  | .dayTime,v => v
  | .monthDayNano,v => v
  | .decimal width precision scale,v =>
    .wrap width.bits (storedDecimal width precision scale v.val)

/-- The values of dictionaries are stored through signed words; a word above those is stored as
zero. -/
def signedValue : (t : ScalarType) → t.Carrier → t.Carrier
  | .integer .uint32,v => if v.val ≤ Int32.maxValue.toInt then v else ⟨0,by decide,by decide⟩
  | .integer .uint64,v => if v.val ≤ Int64.maxValue.toInt then v else ⟨0,by decide,by decide⟩
  | _,v => v

def blank : (t : ScalarType) → t.Carrier
  | .boolean => false
  | .integer .int8 => .wrap 8 0
  | .integer .int16 => .wrap 16 0
  | .integer .int32 => .wrap 32 0
  | .integer .int64 => .wrap 64 0
  | .integer .uint8 => ⟨0,by decide,by decide⟩
  | .integer .uint16 => ⟨0,by decide,by decide⟩
  | .integer .uint32 => ⟨0,by decide,by decide⟩
  | .integer .uint64 => ⟨0,by decide,by decide⟩
  | .float _ => .zero false
  | .utf8 _ => ""
  | .binary _ => []
  | .fixedBinary size => List.replicate size.toNat 0
  | .date32 | .time32 _ | .yearMonth => .wrap 32 0
  | .date64 | .time64 _ | .timestamp _ _ | .duration _ => .wrap 64 0
  | .dayTime => (0,0)
  | .monthDayNano => (0,0,0)
  | .decimal width _ _ => .wrap width.bits 0

mutual

def storedType : DataType → DataType
  | .null => .null
  | .scalar t => .scalar (storedScalar t)
  | .list kind item => .list kind (storedField item)
  | .fixedSizeList item size => .fixedSizeList (storedField item) size
  | .struct fields => .struct (storedFields fields)
  | .map entries sorted => .map (storedField entries) sorted
  | .dictionary key value => .dictionary key (storedType value)
  | .runEndEncoded runEnds (.mk name value nullable) =>
    .runEndEncoded runEnds (.mk name (storedType value) nullable)
  | .union mode ids fields => .union mode ids (storedFields fields)

def storedField : Field → Field
  | .mk name type nullable => .mk name (storedType type) nullable

def storedFields : Fields → Fields
  | .nil => .nil
  | .cons f fs => .cons (storedField f) (storedFields fs)

end

def mapScalars (f : (t : ScalarType) → Option t.Carrier → Option t.Carrier) {t : DataType}
    (s : Slots t) : Slots t :=
  match s with
  | .scalar (t := t) values => .scalar (values.map (f t))
  | s => s

mutual

def storedSlots {t : DataType} (s : Slots t) : Slots (storedType t) :=
  match s with
  | .null n => .null n
  | .scalar (t := t) values => .scalar (values.map (Option.map (storedCarrier t)))
  | @Slots.list _ (.mk _ _ _) ranges child => .list ranges (storedSlots child)
  | @Slots.fixedSizeList (.mk _ _ _) _ present child => .fixedSizeList present (storedSlots child)
  | .struct present columns => .struct present (storedMembers columns)
  | @Slots.map (.mk _ _ _) _ ranges child => .map ranges (storedSlots child)
  | .dictionary keys values =>
    .dictionary keys (mapScalars (fun t => Option.map (signedValue t)) (storedSlots values))
  | @Slots.runs _ (.mk _ _ _) ends offset n values => .runs ends offset n (storedSlots values)
  | .union members columns => .union members (storedMembers columns)

def storedMembers {fs : Fields} (c : Columns fs) : Columns (storedFields fs) :=
  match c with
  | .nil => .nil
  | @Columns.cons (.mk _ _ _) _ head tail => .cons (storedSlots head) (storedMembers tail)

end

/-- A blank for each null among the values that the keys of an array name. -/
def fillBlanks {t : DataType} (s : Slots t) : Slots t :=
  match s with
  | .dictionary keys values =>
    .dictionary keys (mapScalars (fun t v => some (v.getD (blank t))) values)
  | s => s

/-- The columns of a file. A column that is never null stores a value in every slot. -/
def storedColumns {fs : Fields} (c : Columns fs) : Columns (storedFields fs) :=
  match c with
  | .nil => .nil
  | @Columns.cons (.mk _ _ nullable) _ head tail =>
    .cons (if nullable then storedSlots head else fillBlanks (storedSlots head)) (storedColumns tail)

theorem length_storedSlots {t : DataType} (s : Slots t) : (storedSlots s).length = s.length :=
  match s with
  | .null _ => rfl
  | .scalar _ => by simp [storedSlots,Slots.length]
  | @Slots.list _ (.mk _ _ _) _ _ => rfl
  | @Slots.fixedSizeList (.mk _ _ _) _ _ _ => rfl
  | .struct _ _ => rfl
  | @Slots.map (.mk _ _ _) _ _ _ => rfl
  | .dictionary _ _ => rfl
  | @Slots.runs _ (.mk _ _ _) _ _ _ _ => rfl
  | .union _ _ => rfl

theorem length_fillBlanks {t : DataType} (s : Slots t) : (fillBlanks s).length = s.length := by
  cases s <;> simp [fillBlanks,Slots.length]

theorem haveLength_storedColumns {fs : Fields} (c : Columns fs) (n : Nat) (h : c.haveLength n) :
    (storedColumns c).haveLength n :=
  match c with
  | .nil => rfl
  | @Columns.cons (.mk _ _ nullable) _ head tail => by
    simp only [Columns.haveLength,Bool.and_eq_true,beq_iff_eq] at h
    have hlen : (if nullable then storedSlots head else fillBlanks (storedSlots head)).length = n := by
      cases nullable <;> simp [length_fillBlanks,length_storedSlots,h.1]
    simp only [storedColumns,Columns.haveLength,Bool.and_eq_true,beq_iff_eq]
    exact ⟨hlen,haveLength_storedColumns tail n h.2⟩

def storedBatch {fs : Fields} (b : Batch fs) : Batch (storedFields fs) :=
  ⟨b.numRows,storedColumns b.columns,haveLength_storedColumns b.columns b.numRows b.haveLength⟩

end Parquet
end ColumnarReport
