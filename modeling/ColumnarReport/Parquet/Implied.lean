import ColumnarReport.Arrow.Batch
import ColumnarReport.Parquet.Schema

/-! The types that a file's own schema implies, for a file that does not keep the types of the
arrays it was made from, and the arrays as they are read with those types. -/
namespace ColumnarReport
namespace Parquet

open Arrow (DataType Field Fields ScalarType DecimalWidth FixedInt Slots Columns Batch)

/-- Decimals are read with the least width of those two that holds them. -/
def impliedWidth (precision : Nat) : DecimalWidth := if precision ≤ 38 then .w128 else .w256

def impliedScalar : ScalarType → ScalarType
  | .utf8 _ => .utf8 .short
  | .binary _ => .binary .short
  | .date64 => .integer .int64
  | .duration _ => .integer .int64
  | .time32 .second => .integer .int32
  | .time64 .second => .integer .int64
  | .timestamp .second _ => .integer .int64
  | .timestamp unit zone => .timestamp unit (if isUniversal zone then some "UTC" else none)
  | .yearMonth => .dayTime
  | .monthDayNano => .dayTime
  | .decimal _ precision scale => .decimal (impliedWidth precision) precision scale
  | t => t

def impliedValue : (t : ScalarType) → t.Carrier → (impliedScalar t).Carrier
  | .boolean,v => v
  | .integer _,v => v
  | .float _,v => v
  | .utf8 _,v => v
  | .binary _,v => v
  | .fixedBinary _,v => v
  | .date32,v => v
  | .date64,v => v
  | .time32 .second,v => v
  | .time32 .millisecond,v => v
  | .time32 .microsecond,v => v
  | .time32 .nanosecond,v => v
  | .time64 .second,v => v
  | .time64 .millisecond,v => v
  | .time64 .microsecond,v => v
  | .time64 .nanosecond,v => v
  | .timestamp .second _,v => v
  | .timestamp .millisecond _,v => v
  | .timestamp .microsecond _,v => v
  | .timestamp .nanosecond _,v => v
  | .duration _,v => v
  | .yearMonth,_ => (0,0)
  | .dayTime,v => v
  | .monthDayNano,v => (v.2.1,v.2.2/1000000)
  | .decimal _ precision _,v => .wrap (impliedWidth precision).bits v.val

mutual

/-- Lists lose their kind, maps their sorting, and dictionaries and runs become their values. -/
def impliedType : DataType → DataType
  | .null => .null
  | .scalar t => .scalar (impliedScalar t)
  | .list _ item => .list .list (impliedField item)
  | .fixedSizeList item _ => .list .list (impliedField item)
  | .struct fields => .struct (impliedFields fields)
  | .map entries _ => .map (impliedField entries) false
  | .dictionary _ value => impliedType value
  | .runEndEncoded _ (.mk _ value _) => impliedType value
  | .union mode ids fields => .union mode ids (impliedFields fields)

def impliedField : Field → Field
  | .mk name type nullable => .mk name (impliedType type) nullable

def impliedFields : Fields → Fields
  | .nil => .nil
  | .cons f fs => .cons (impliedField f) (impliedFields fs)

end

mutual

def impliedSlots {t : DataType} (s : Slots t) : Slots (impliedType t) :=
  match s with
  | .null n => .null n
  | .scalar (t := t) values => .scalar (values.map (Option.map (impliedValue t)))
  | @Slots.list _ (.mk _ _ _) ranges child => .list ranges (impliedSlots child)
  | @Slots.fixedSizeList (.mk _ _ _) size present child =>
    .list (present.mapIdx fun i p => if p then some (i*size.toNat,size.toNat) else none) (impliedSlots child)
  | .struct present columns => .struct present (impliedColumns columns)
  | @Slots.map (.mk _ _ _) _ ranges child => .map ranges (impliedSlots child)
  | .dictionary keys values => (impliedSlots values).pick keys
  | @Slots.runs _ (.mk _ _ _) ends offset n values =>
    (impliedSlots values).pick ((List.range n).map fun i => some (Arrow.runAt ends (offset+i)))
  | .union members columns => .union members (impliedColumns columns)

def impliedColumns {fs : Fields} (c : Columns fs) : Columns (impliedFields fs) :=
  match c with
  | .nil => .nil
  | @Columns.cons (.mk _ _ _) _ head tail => .cons (impliedSlots head) (impliedColumns tail)

end

theorem length_impliedSlots {t : DataType} (s : Slots t) : (impliedSlots s).length = s.length :=
  match s with
  | .null _ => rfl
  | .scalar _ => by simp [impliedSlots,Slots.length]
  | @Slots.list _ (.mk _ _ _) _ _ => rfl
  | @Slots.fixedSizeList (.mk _ _ _) _ _ _ => by simp [impliedSlots,Slots.length]
  | .struct _ _ => rfl
  | @Slots.map (.mk _ _ _) _ _ _ => rfl
  | .dictionary keys values => by
    simp only [impliedSlots]
    exact Slots.length_pick (impliedSlots values) keys
  | @Slots.runs _ (.mk _ _ _) _ _ n values => by
    simp only [impliedSlots]
    exact (Slots.length_pick (impliedSlots values) _).trans (by simp [Slots.length])
  | .union _ _ => rfl

theorem haveLength_impliedColumns {fs : Fields} (c : Columns fs) (n : Nat) (h : c.haveLength n) :
    (impliedColumns c).haveLength n :=
  match c with
  | .nil => rfl
  | @Columns.cons (.mk _ _ _) _ head tail => by
    simp only [Columns.haveLength,Bool.and_eq_true,beq_iff_eq] at h
    simp only [impliedColumns,Columns.haveLength,Bool.and_eq_true,beq_iff_eq]
    exact ⟨(length_impliedSlots head).trans h.1,haveLength_impliedColumns tail n h.2⟩

def impliedBatch {fs : Fields} (b : Batch fs) : Batch (impliedFields fs) :=
  ⟨b.numRows,impliedColumns b.columns,haveLength_impliedColumns b.columns b.numRows b.haveLength⟩

end Parquet
end ColumnarReport
