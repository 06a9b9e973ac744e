import ColumnarReport.Arrow.DataType

/-! Arrays: the slots of a type, stored by columns. Lists refer to ranges of a child array,
dictionaries to their values by key, and runs to theirs by where each run ends. -/
namespace ColumnarReport

open scoped Computing
namespace Arrow

instance : (t : ScalarType) → DecidableEq t.Carrier
  | .boolean => inferInstanceAs (DecidableEq Bool)
  | .integer t => inferInstanceAs (DecidableEq (FixedInt t.signed t.bits))
  | .float t => inferInstanceAs (DecidableEq (Binary t.format))
  | .utf8 _ => inferInstanceAs (DecidableEq String)
  | .binary _ | .fixedBinary _ => inferInstanceAs (DecidableEq (List UInt8))
  | .date32 | .time32 _ | .yearMonth => inferInstanceAs (DecidableEq (FixedInt true 32))
  | .date64 | .time64 _ | .timestamp _ _ | .duration _ =>
    inferInstanceAs (DecidableEq (FixedInt true 64))
  | .dayTime => inferInstanceAs (DecidableEq (Int × Int))
  | .monthDayNano => inferInstanceAs (DecidableEq (Int × Int × Int))
  | .decimal width _ _ => inferInstanceAs (DecidableEq (FixedInt true width.bits))

mutual

inductive Slots : DataType → Type
  | null (length : Nat) : Slots .null
  | scalar {t : ScalarType} (values : List (Option t.Carrier)) : Slots (.scalar t)
  /-- Each slot is a range of the child: its start and its length. -/
  | list {kind : ListKind} {item : Field} (ranges : List (Option (Nat × Nat)))
      (child : Slots item.type) : Slots (.list kind item)
  | fixedSizeList {item : Field} {size : Int} (present : List Bool)
      (child : Slots item.type) : Slots (.fixedSizeList item size)
  | struct {fields : Fields} (present : List Bool) (columns : Columns fields) :
      Slots (.struct fields)
  | map {entries : Field} {sorted : Bool} (ranges : List (Option (Nat × Nat)))
      (child : Slots entries.type) : Slots (.map entries sorted)
  | dictionary {key value : DataType} (keys : List (Option Nat)) (values : Slots value) :
      Slots (.dictionary key value)
  /-- A window of the given length over runs that end before the given positions. -/
  | runs {runEnds values : Field} (ends : List Nat) (offset length : Nat)
      (runValues : Slots values.type) : Slots (.runEndEncoded runEnds values)
  /-- Each slot names a child by its place and a slot of that child. -/
  | union {mode : UnionMode} {ids : List Int} {fields : Fields} (members : List (Nat × Nat))
      (columns : Columns fields) : Slots (.union mode ids fields)

inductive Columns : Fields → Type
  | nil : Columns .nil
  | cons {f : Field} {fs : Fields} (head : Slots f.type) (tail : Columns fs) :
      Columns (.cons f fs)

end

def runAt (ends : List Nat) (position : Nat) : Nat := ends.countP (· ≤ position)

namespace Slots

def length {t : DataType} : Slots t → Nat
  | null n => n
  | scalar values => values.length
  | list ranges _ => ranges.length
  | fixedSizeList present _ => present.length
  | struct present _ => present.length
  | map ranges _ => ranges.length
  | dictionary keys _ => keys.length
  | runs _ _ n _ => n
  | union members _ => members.length

end Slots

def cut {α : Type} (xs : List α) (offset len : Nat) : List α := (xs.drop offset).take len

mutual

def Slots.slice {t : DataType} (s : Slots t) (offset len : Nat) : Slots t :=
  match s with
  | .null n => .null (min len (n-offset))
  | .scalar values => .scalar (cut values offset len)
  | .list ranges child => .list (cut ranges offset len) child
  | @Slots.fixedSizeList _ size present child =>
    .fixedSizeList (cut present offset len) (child.slice (offset*size.toNat) (len*size.toNat))
  | .struct present columns => .struct (cut present offset len) (columns.slice offset len)
  | .map ranges child => .map (cut ranges offset len) child
  | .dictionary keys values => .dictionary (cut keys offset len) values
  | .runs ends start n values => .runs ends (start+offset) (min len (n-offset)) values
  | .union members columns => .union (cut members offset len) columns

def Columns.slice {fs : Fields} (c : Columns fs) (offset len : Nat) : Columns fs :=
  match c with
  | .nil => .nil
  | .cons head tail => .cons (head.slice offset len) (tail.slice offset len)

end

theorem length_cut {α : Type} (xs : List α) (offset len : Nat) :
    (cut xs offset len).length = min len (xs.length-offset) := by
  simp [cut]

theorem Slots.length_slice {t : DataType} (s : Slots t) (offset len : Nat) :
    (s.slice offset len).length = min len (s.length-offset) := by
  cases s <;> simp [Slots.slice,Slots.length,length_cut]

def at? {α : Type} (xs : List (Option α)) (position : Option Nat) : Option α :=
  position.bind fun i => xs[i]?.join

def isSet (present : List Bool) (position : Option Nat) : Bool :=
  (position.bind fun i => present[i]?).getD false

mutual

/-- The slots at these positions; an absent position gives a null. -/
def Slots.pick {t : DataType} (s : Slots t) (positions : List (Option Nat)) : Slots t :=
  match s with
  | .null _ => .null positions.length
  | .scalar values => .scalar (positions.map (at? values))
  | .list ranges child => .list (positions.map (at? ranges)) child
  | @Slots.fixedSizeList _ size present child =>
    .fixedSizeList (positions.map (isSet present)) (child.pick (positions.flatMap fun p =>
      (List.range size.toNat).map fun j => p.map fun i => i*size.toNat+j))
  | .struct present columns => .struct (positions.map (isSet present)) (columns.pick positions)
  | .map ranges child => .map (positions.map (at? ranges)) child
  | .dictionary keys values => .dictionary (positions.map (at? keys)) values
  | .runs ends offset _ values =>
    .runs (List.range' 1 positions.length) 0 positions.length
      (values.pick (positions.map fun p => p.map fun i => runAt ends (offset+i)))
  | .union members columns =>
    .union (positions.map fun p => (p.bind fun i => members[i]?).getD (0,0)) columns

def Columns.pick {fs : Fields} (c : Columns fs) (positions : List (Option Nat)) : Columns fs :=
  match c with
  | .nil => .nil
  | .cons head tail => .cons (head.pick positions) (tail.pick positions)

end

theorem Slots.length_pick {t : DataType} (s : Slots t) (positions : List (Option Nat)) :
    (s.pick positions).length = positions.length := by
  cases s <;> simp [Slots.pick,Slots.length]

def shiftRanges (k : Nat) (ranges : List (Option (Nat × Nat))) : List (Option (Nat × Nat)) :=
  ranges.map fun r => r.map fun (start,len) => (start+k,len)

/-- The ends of the runs in a window, counted from its start. -/
def windowEnds (ends : List Nat) (offset length : Nat) : List Nat :=
  ends.map fun e => min (e-offset) length

def Columns.lengthAt {fs : Fields} (c : Columns fs) (place : Nat) : Nat :=
  match c,place with
  | .nil,_ => 0
  | .cons head _,0 => head.length
  | .cons _ tail,place+1 => tail.lengthAt place

mutual

def Slots.same {t : DataType} (a b : Slots t) : Bool :=
  match a,b with
  | .null n,.null m => n == m
  | .scalar xs,.scalar ys => xs == ys
  | .list xs child,.list ys child' => xs == ys && child.same child'
  | .fixedSizeList xs child,.fixedSizeList ys child' => xs == ys && child.same child'
  | .struct xs columns,.struct ys columns' => xs == ys && columns.same columns'
  | .map xs child,.map ys child' => xs == ys && child.same child'
  | .dictionary xs values,.dictionary ys values' => xs == ys && values.same values'
  | .runs xs o n values,.runs ys o' m values' =>
    xs == ys && o == o' && n == m && values.same values'
  | .union xs columns,.union ys columns' => xs == ys && columns.same columns'

def Columns.same {fs : Fields} (a b : Columns fs) : Bool :=
  match a,b with
  | .nil,.nil => true
  | .cons head tail,.cons head' tail' => head.same head' && tail.same tail'

end

mutual

/-- The slots of one array and then those of another, whatever their keys come to. Dictionaries that
are the same are shared. -/
def Slots.followedBy {t : DataType} (a b : Slots t) : Slots t :=
  match a,b with
  | .null n,.null m => .null (n+m)
  | .scalar xs,.scalar ys => .scalar (xs++ys)
  | .list xs child,.list ys child' =>
    .list (xs++shiftRanges child.length ys) (child.followedBy child')
  | .fixedSizeList xs child,.fixedSizeList ys child' =>
    .fixedSizeList (xs++ys) (child.followedBy child')
  | .struct xs columns,.struct ys columns' => .struct (xs++ys) (columns.followedBy columns')
  | .map xs child,.map ys child' => .map (xs++shiftRanges child.length ys) (child.followedBy child')
  | .dictionary xs values,.dictionary ys values' =>
    if values.same values' then .dictionary (xs++ys) values
    else .dictionary (xs++ys.map (Option.map (·+values.length))) (values.followedBy values')
  | .runs xs o n values,.runs ys o' m values' =>
    .runs (windowEnds xs o n++(windowEnds ys o' m).map (·+n)) 0 (n+m) (values.followedBy values')
  | .union xs columns,.union ys columns' =>
    .union (xs++ys.map fun (place,j) => (place,j+columns.lengthAt place)) (columns.followedBy columns')

def Columns.followedBy {fs : Fields} (a b : Columns fs) : Columns fs :=
  match a,b with
  | .nil,.nil => .nil
  | .cons head tail,.cons head' tail' => .cons (head.followedBy head') (tail.followedBy tail')

end

theorem Slots.length_followedBy {t : DataType} (a b : Slots t) :
    (a.followedBy b).length = a.length+b.length := by
  cases a <;> cases b <;> simp only [Slots.followedBy]
  case dictionary.dictionary xs values ys values' =>
    cases values.same values' <;> simp [Slots.length]
  all_goals simp [Slots.length,shiftRanges]

def DataType.greatestKey? : DataType → Option Nat
  | .scalar (.integer t) => some (2^(if t.signed then t.bits-1 else t.bits)-1)
  | _ => none

mutual

/-- Whether the keys of dictionaries are numbers of their types. -/
def Slots.keysFit {t : DataType} (s : Slots t) : Bool :=
  match s with
  | .null _ => true
  | .scalar _ => true
  | .list _ child => child.keysFit
  | .fixedSizeList _ child => child.keysFit
  | .struct _ columns => columns.keysFit
  | .map _ child => child.keysFit
  | @Slots.dictionary key _ keys values =>
    keys.all (fun k => k.all fun i => key.greatestKey?.all (decide <| i ≤ ·)) && values.keysFit
  | .runs _ _ _ values => values.keysFit
  | .union _ columns => columns.keysFit

def Columns.keysFit {fs : Fields} (c : Columns fs) : Bool :=
  match c with
  | .nil => true
  | .cons head tail => head.keysFit && tail.keysFit

end

/-- Whether a slot is null in the array's own mask. -/
def Slots.isUnset {t : DataType} (s : Slots t) (i : Nat) : Bool :=
  match s with
  | .null _ => false
  | .scalar values => (values[i]?.join).isNone
  | .list ranges _ => (ranges[i]?.join).isNone
  | .fixedSizeList present _ => !present[i]?.getD false
  | .struct present _ => !present[i]?.getD false
  | .map ranges _ => (ranges[i]?.join).isNone
  | .dictionary keys _ => (keys[i]?.join).isNone
  | .runs _ _ _ _ => false
  | .union _ _ => false

mutual

/-- Whether a slot is null by its meaning: dictionary keys and runs take it from the value that
they refer to, and every slot of the null type is null. -/
def Slots.isNull {t : DataType} (s : Slots t) (i : Nat) : Bool :=
  match s with
  | .null _ => true
  | .scalar values => (values[i]?.join).isNone
  | .list ranges _ => (ranges[i]?.join).isNone
  | .fixedSizeList present _ => !present[i]?.getD false
  | .struct present _ => !present[i]?.getD false
  | .map ranges _ => (ranges[i]?.join).isNone
  | .dictionary keys values =>
    match keys[i]?.join with
    | none => true
    | some k => values.isNull k
  | .runs ends offset _ values => values.isNull (runAt ends (offset+i))
  | .union members columns =>
    match members[i]? with
    | none => true
    | some (place,j) => columns.isNull place j

def Columns.isNull {fs : Fields} (c : Columns fs) (place i : Nat) : Bool :=
  match c,place with
  | .nil,_ => true
  | .cons head _,0 => head.isNull i
  | .cons _ tail,place+1 => tail.isNull place i

end

end Arrow
end ColumnarReport
