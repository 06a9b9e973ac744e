import ColumnarReport.Arrow.Slots

/-! Rows stored by columns: one array for each field, all of one length. -/
namespace ColumnarReport

open scoped Computing
namespace Arrow

namespace Columns

def haveLength {fs : Fields} (c : Columns fs) (n : Nat) : Bool :=
  match c with
  | .nil => true
  | .cons head tail => head.length == n && tail.haveLength n

theorem haveLength_slice {fs : Fields} (c : Columns fs) (n offset len : Nat)
    (h : c.haveLength n) : (c.slice offset len).haveLength (min len (n-offset)) :=
  match c with
  | .nil => by simp [slice,haveLength]
  | .cons head tail => by
    simp only [haveLength,Bool.and_eq_true,beq_iff_eq] at h
    simp [slice,haveLength,Slots.length_slice,h.1,haveLength_slice tail n offset len h.2]

theorem haveLength_followedBy {fs : Fields} (a b : Columns fs) (n m : Nat)
    (ha : a.haveLength n) (hb : b.haveLength m) : (a.followedBy b).haveLength (n+m) :=
  match a,b with
  | .nil,.nil => by simp [followedBy,haveLength]
  | .cons head tail,.cons head' tail' => by
    simp only [haveLength,Bool.and_eq_true,beq_iff_eq] at ha hb
    simp [followedBy,haveLength,Slots.length_followedBy,ha.1,hb.1,
      haveLength_followedBy tail tail' n m ha.2 hb.2]

end Columns

mutual

def Slots.empty : (t : DataType) → Slots t
  | .null => .null 0
  | .scalar _ => .scalar []
  | .list _ (.mk _ t _) => .list [] (Slots.empty t)
  | .fixedSizeList (.mk _ t _) _ => .fixedSizeList [] (Slots.empty t)
  | .struct fields => .struct [] (Columns.empty fields)
  | .map (.mk _ t _) _ => .map [] (Slots.empty t)
  | .dictionary _ value => .dictionary [] (Slots.empty value)
  | .runEndEncoded _ (.mk _ t _) => .runs [] 0 0 (Slots.empty t)
  | .union _ _ fields => .union [] (Columns.empty fields)

def Columns.empty : (fs : Fields) → Columns fs
  | .nil => .nil
  | .cons (.mk _ t _) rest => .cons (Slots.empty t) (Columns.empty rest)

end

theorem Slots.length_empty (t : DataType) : (Slots.empty t).length = 0 := by
  unfold Slots.empty
  split <;> simp [Slots.length]

theorem Columns.haveLength_empty : (fs : Fields) → (Columns.empty fs).haveLength 0
  | .nil => by simp [Columns.empty,Columns.haveLength]
  | .cons (.mk _ t _) rest => by
    simp only [Columns.empty,Columns.haveLength,Bool.and_eq_true,beq_iff_eq]
    exact ⟨Slots.length_empty t,haveLength_empty rest⟩

structure Batch (fields : Fields) where
  numRows : Nat
  columns : Columns fields
  haveLength : columns.haveLength numRows

namespace Batch

def ofColumns? {fs : Fields} (numRows : Nat) (c : Columns fs) : Option (Batch fs) :=
  if h : c.haveLength numRows then some ⟨numRows,c,h⟩ else none

def empty (fs : Fields) : Batch fs := ⟨0,Columns.empty fs,Columns.haveLength_empty fs⟩

def slice {fs : Fields} (b : Batch fs) (offset len : Nat) : Batch fs :=
  ⟨min len (b.numRows-offset),b.columns.slice offset len,
    Columns.haveLength_slice b.columns b.numRows offset len b.haveLength⟩

def followedBy {fs : Fields} (a b : Batch fs) : Batch fs :=
  ⟨a.numRows+b.numRows,a.columns.followedBy b.columns,
    Columns.haveLength_followedBy a.columns b.columns a.numRows b.numRows a.haveLength b.haveLength⟩

def keyOverflow : String := "Dictionary key bigger than the key type"

/-- Keys are moved behind those of the first batch, as far as their types reach. -/
def append {fs : Fields} (a b : Batch fs) : Except String (Batch fs) :=
  if (a.followedBy b).columns.keysFit then .ok (a.followedBy b) else .error keyOverflow

def concat {fs : Fields} : List (Batch fs) → Except String (Batch fs)
  | [] => .ok (empty fs)
  | [b] => .ok b
  | b :: next :: rest =>
    match concat (next :: rest) with
    | .error e => .error e
    | .ok whole => b.append whole

/-- Consecutive ranges of at most `size` rows, as offset and length. A size of zero counts as
one. -/
def ranges (size offset rows : Nat) : List (Nat × Nat) :=
  if rows = 0 then []
  else
    let len := min (max 1 size) rows
    (offset,len) :: ranges size (offset+len) (rows-len)
termination_by rows
decreasing_by omega

theorem sum_ranges (size offset rows : Nat) :
    ((ranges size offset rows).map (·.2)).sum = rows := by
  fun_induction ranges size offset rows with
  | case1 => rfl
  | case2 offset rows h len ih =>
    simp only [List.map_cons,List.sum_cons,ih]
    omega

def split {fs : Fields} (b : Batch fs) (size : Nat) : List (Batch fs) :=
  (ranges size 0 b.numRows).map fun (offset,len) => b.slice offset len

end Batch

/-- Joins batches into one, or says why it cannot. Which dictionaries are shared or merged, and with
them the keys that are too many, is left open. -/
class BatchJoin where
  join {fs : Fields} (batches : List (Batch fs)) : Except String (Batch fs)

/-- Dictionaries are not merged. -/
@[reducible] def BatchJoin.ofConcat : BatchJoin := ⟨Batch.concat⟩

end Arrow
end ColumnarReport
