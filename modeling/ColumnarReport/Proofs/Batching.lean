import Mathlib
import ColumnarReport.Proofs.Loading
import ColumnarReport.Proofs.SharedDictionaries

/-! Loading does not depend on how rows are batched. The table depends on the rows that the batches
hold together, and the reader, whose faults come of leaves read batch by batch, fails for every
batch size or for none. -/
namespace ColumnarReport

namespace Arrow
namespace Batch

variable {fs : Fields}

theorem values_slice (b : Batch fs) {offset len : Nat} (h : offset+len ≤ b.numRows) :
    (b.slice offset len).values = (List.range' offset len).map b.columns.values := by
  have rows : (b.slice offset len).numRows = len := by
    change min len (b.numRows-offset) = len
    omega
  rw [values,rows,List.range_eq_range']
  refine map_range'_shift (Nat.add_zero offset).symm fun i _ hi => ?_
  exact b.columns.values_slice offset (by omega)

/-- Cutting into ranges leaves out no row and takes none twice. -/
theorem flatMap_ranges (size offset rows : Nat) :
    (ranges size offset rows).flatMap (fun r => List.range' r.1 r.2) = List.range' offset rows := by
  fun_induction ranges size offset rows with
  | case1 => rfl
  | case2 offset rows h len ih =>
    have split : len+(rows-len) = rows := by omega
    rw [List.flatMap_cons,ih,List.range'_append_1,split]

theorem ranges_le {size offset rows : Nat} : ∀ r ∈ ranges size offset rows, r.2 ≤ max 1 size := by
  fun_induction ranges size offset rows with
  | case1 => simp
  | case2 offset rows h len ih => exact List.forall_mem_cons.mpr ⟨Nat.min_le_left _ _,ih⟩

theorem ranges_zero (offset rows : Nat) : ranges 0 offset rows = ranges 1 offset rows := by
  fun_induction ranges 1 offset rows with
  | case1 => simp [ranges]
  | case2 offset rows h len ih =>
    rw [ranges,if_neg h]
    exact congrArg _ ih

/-- What a reader owes: consecutive batches of at most the size, which hold the rows together. -/
theorem split_batches (b : Batch fs) (size : Nat) :
    (b.split size).flatMap values = b.values ∧ ∀ x ∈ b.split size, x.numRows ≤ max 1 size := by
  constructor
  · rw [split,List.flatMap_map]
    have pieces : ∀ r ∈ ranges size 0 b.numRows,
        (b.slice r.1 r.2).values = (List.range' r.1 r.2).map b.columns.values := by
      intro r hr
      exact b.values_slice (by have := ranges_within r hr; omega)
    rw [List.flatMap_congr pieces,← List.map_flatMap,flatMap_ranges,values,List.range_eq_range']
  · intro x hx
    obtain ⟨r,hr,rfl⟩ := List.mem_map.mp hx
    exact (Nat.min_le_left _ _).trans (ranges_le r hr)

theorem valid_split {b : Batch fs} (h : b.columns.Valid) (size : Nat) :
    ∀ x ∈ b.split size, x.columns.Valid := by
  intro x hx
  obtain ⟨r,-,rfl⟩ := List.mem_map.mp hx
  exact Columns.valid_slice h r.1 r.2

variable {b b' : Batch fs}

theorem numRows_eq (h : b.values = b'.values) : b.numRows = b'.numRows := by
  rw [← b.length_values,h,b'.length_values]

theorem columns_values_eq (h : b.values = b'.values) :
    ∀ i < b.numRows, b.columns.values i = b'.columns.values i := by
  intro i hi
  rw [values,values,← numRows_eq h] at h
  exact List.map_inj_left.mp h i (List.mem_range.mpr hi)

section

variable [ZoneDatabase]

theorem decode_eq (h : b.values = b'.values) : b.columns.decode = b'.columns.decode :=
  Columns.decode_eq b.haveLength (numRows_eq h ▸ b'.haveLength) (columns_values_eq h)

/-- Batches that hold the same rows draw the same grids. -/
theorem draw_eq (h : b.values = b'.values) : b.draw = b'.draw := by
  have grids : ∀ offset len, (b.window offset len).grid = (b'.window offset len).grid := by
    intro offset len
    have numRows : (b.window offset len).numRows = (b'.window offset len).numRows := by
      simp only [window,slice,numRows_eq h]
    rw [grid,grid,← numRows]
    refine congrArg _ (List.map_congr_left fun i hi => Columns.texts_eq ?_)
    have hi : i < min (min len (b.numRows-min offset b.numRows))
      (b.numRows-min offset b.numRows) := List.mem_range.mp hi
    simp only [window,slice,← numRows_eq h]
    rw [Columns.values_slice _ _ (by omega),Columns.values_slice _ _ (by omega)]
    exact columns_values_eq h _ (by omega)
  funext _ offset len
  rw [draw,draw,grids]

end

end Batch
end Arrow

namespace Parquet

open Arrow (Slots Columns Batch BatchJoin LawfulJoin Fields)

/-! ### Faults -/

mutual

theorem slotLeaves_nil {t : Arrow.DataType} (s : Slots t) (path : List String) :
    ∀ l ∈ slotLeaves s path [], l.entries = [] :=
  match s with
  | .null _ => by simp [slotLeaves]
  | .scalar _ => by simp [slotLeaves]
  | .list ranges child => by
    simp only [slotLeaves,childPositions,List.flatMap_nil]
    exact slotLeaves_nil child _
  | .fixedSizeList present child => by
    simp only [slotLeaves,childPositions,List.flatMap_nil]
    exact slotLeaves_nil child _
  | .struct present columns => by
    simp only [slotLeaves,List.map_nil]
    exact columnLeaves_nil columns path
  | .map ranges child => by
    simp only [slotLeaves,childPositions,List.flatMap_nil]
    exact slotLeaves_nil child _
  | .dictionary keys values => by
    simp only [slotLeaves,List.map_nil,List.forall_mem_map]
    exact slotLeaves_nil values path
  | .runs _ _ _ values => by
    simp only [slotLeaves,List.map_nil]
    exact slotLeaves_nil values path
  | .union _ _ => by simp [slotLeaves]

theorem columnLeaves_nil {fs : Fields} (c : Columns fs) (path : List String) :
    ∀ l ∈ columnLeaves c path [], l.entries = [] :=
  match c with
  | .nil => by simp [columnLeaves]
  | .cons head tail => by
    simp only [columnLeaves]
    exact List.forall_mem_append.mpr ⟨slotLeaves_nil head _,columnLeaves_nil tail path⟩

end

theorem fileLeaves_nil {fs : Fields} (c : Columns fs) : ∀ l ∈ fileLeaves c [], l.entries = [] :=
  match c with
  | .nil => by simp [fileLeaves]
  | .cons (f := f) head tail => by
    have first : ∀ l ∈ (if Parquet.isLeaf f.type && !f.nullable then
        (slotLeaves head [f.name] []).map Leaf.filled else slotLeaves head [f.name] []),
        l.entries = [] := by
      split
      · rw [List.forall_mem_map]
        intro l hl
        simp [Leaf.filled,slotLeaves_nil head _ l hl]
      · exact slotLeaves_nil head _
    simp only [fileLeaves]
    exact List.forall_mem_append.mpr ⟨first,fileLeaves_nil tail⟩

theorem byteStrings_nil (t : PhysicalType) : byteStrings t [] = [] := by
  cases t <;> rfl

/-- Without entries there are no values for keys to be too few for. -/
theorem Leaf.exceedsKeys_of_nil {l : Leaf} (h : l.entries = []) : l.exceedsKeys = false := by
  unfold exceedsKeys
  cases l.greatestKey with
  | none => rfl
  | some most =>
    simp [h,byteStrings_nil]

namespace StoredFile

theorem groupRanges_within {start : Nat} {counts : List Nat} :
    ∀ r ∈ groupRanges start counts, r.1+r.2 ≤ start+counts.sum := by
  induction counts generalizing start with
  | nil => simp [groupRanges]
  | cons count counts ih =>
    refine List.forall_mem_cons.mpr ⟨?_,fun r hr => ?_⟩
    · rw [List.sum_cons]
      omega
    · have := ih r hr
      rw [List.sum_cons]
      omega

/-- A row group whose dictionary has too many values begins before the last row. -/
theorem exceedsKeysBefore_numRows {f : StoredFile} {row : Nat} (h : f.exceedsKeysBefore row) :
    f.exceedsKeysBefore f.rows.numRows := by
  unfold exceedsKeysBefore at h ⊢
  obtain ⟨r,hr,hl⟩ := List.any_eq_true.mp h
  rw [Bool.and_eq_true] at hl
  refine List.any_eq_true.mpr ⟨r,hr,?_⟩
  rw [Bool.and_eq_true]
  refine ⟨decide_eq_true ?_,hl.2⟩
  obtain ⟨l,mem,exceeds⟩ := List.any_eq_true.mp hl.2
  have within := groupRanges_within r hr
  rw [f.groupRows_sum] at within
  have some : r.2 ≠ 0 := by
    intro empty
    have blank : l.entries = [] := by
      rw [leaves,empty] at mem
      exact fileLeaves_nil _ l mem
    simp [Leaf.exceedsKeys_of_nil blank] at exceeds
  omega

/-- The reader fails for every batch size or for none, though not always for the same reason. -/
theorem isSome_readFault?_eq (f : StoredFile) (size size' : Nat) :
    (f.readFault? size).isSome = (f.readFault? size').isSome := by
  have all : ∀ size, (f.readFault? size).isSome =
      (!(decide (f.rows.numRows = 0) || !f.keepsTypes) &&
        ((fieldsReadFault? f.fields).isSome || f.exceedsKeysBefore f.rows.numRows)) := by
    intro size
    unfold readFault?
    by_cases hr : (decide (f.rows.numRows = 0) || !f.keepsTypes) = true
    · simp [hr]
    · rw [if_neg hr]
      by_cases first : f.exceedsKeysBefore (max 1 size) = true
      · simp [hr,first,exceedsKeysBefore_numRows first]
      · rw [if_neg first]
        cases fieldsReadFault? f.fields <;>
          cases f.exceedsKeysBefore f.rows.numRows <;> simp [hr]
  rw [all,all]

/-- The same rows in other row groups. -/
def divide (f : StoredFile) (counts : List Nat) (sum : counts.sum = f.rows.numRows)
    (layout : Layout) : StoredFile :=
  { f with groupRows := counts, groupRows_sum := sum, layout := layout }

section

variable [BatchJoin]

/-- The batches of a size are joined, and what they are joined to are the rows that the file
stores. -/
def Joins (f : StoredFile) (size : Nat) : Prop :=
  ∃ rows, (f.reading size).rows = .ok rows ∧ rows.values = f.readRows.2.values

/-- Batches are joined to what is stored unless they are not joined at all. -/
theorem joins_of_rows [LawfulJoin] {f : StoredFile} {size : Nat}
    {rows : Batch (f.reading size).fields} (valid : f.readRows.2.columns.Valid)
    (joined : (f.reading size).rows = .ok rows) : f.Joins size :=
  ⟨rows,joined,(LawfulJoin.values joined (Batch.valid_split valid size)).trans
    (f.readRows.2.split_batches size).1⟩

end

/-- Plain concatenation joins the batches of every size. -/
theorem joins_ofConcat {f : StoredFile} (valid : f.readRows.2.columns.Valid)
    (fit : f.readRows.2.columns.keysFit) (size : Nat) : @Joins .ofConcat f size := by
  obtain ⟨rows,joined⟩ := Batch.concat_split fit size
  exact @joins_of_rows .ofConcat Arrow.lawfulJoin_ofConcat f size rows valid joined

end StoredFile

/-! ### Tables -/

/-- Loading ends alike, if the footers are left out of account. -/
def AlikeButFooter : Except SourceError Table → Except SourceError Table → Prop
  | .error e,.error e' => e = e'
  | .ok t,.ok t' => { t with footer := t'.footer } = t'
  | _,_ => False

section

variable [ZoneDatabase]

namespace Reading

theorem tableOf_eq (r : Reading) {rows rows' : Batch r.fields} (h : rows.values = rows'.values) :
    r.tableOf rows = r.tableOf rows' := by
  rw [tableOf,tableOf,Batch.decode_eq h,Batch.numRows_eq h,Batch.draw_eq h]

/-- What a reading tells of the file goes to the footer. -/
theorem tableOf_alike (r : Reading) (rows : Batch r.fields) (batches : List (Batch r.fields))
    (m : Metadata) (fileSize footerSize : Nat) :
    AlikeButFooter (r.tableOf rows)
      (tableOf ⟨r.fields,batches,r.schemaText,m,fileSize,footerSize⟩ rows) := by
  simp only [tableOf]
  cases rows.columns.decode <;> rfl

end Reading

namespace StoredFile

variable [BatchJoin]

theorem load_zero (f : StoredFile) : f.load 0 = f.load 1 := by
  have batches : f.readRows.2.split 0 = f.readRows.2.split 1 := by
    rw [Batch.split,Batch.ranges_zero,Batch.split]
  have same : f.reading 0 = f.reading 1 := by rw [reading,batches,reading]
  have fault : f.readFault? 0 = f.readFault? 1 := rfl
  rw [load,same,fault,load]

theorem load_of_error {f : StoredFile} {size : Nat} {message : String}
    (h : (f.reading size).rows = .error message) :
    ∃ e, f.load size = .error e ∧
      (f.openFault? = none → f.readFault? size = none → e = .decode message) := by
  by_cases opened : f.openFault? = none
  · by_cases read : f.readFault? size = none
    · exact ⟨_,(load_of_no_fault opened read).trans (Reading.table_of_error h),fun _ _ => rfl⟩
    · obtain ⟨e,he⟩ := Option.ne_none_iff_exists'.mp read
      exact ⟨_,by rw [load,opened,he],fun _ none => (read none).elim⟩
  · obtain ⟨e,he⟩ := Option.ne_none_iff_exists'.mp opened
    exact ⟨_,by rw [load,he],fun none => (opened none).elim⟩

theorem load_of_joins {f : StoredFile} {size : Nat} (joins : f.Joins size)
    (opened : f.openFault? = none) (read : f.readFault? size = none) :
    f.load size = (f.reading size).tableOf f.readRows.2 := by
  obtain ⟨rows,joined,same⟩ := joins
  rw [load_of_no_fault opened read,Reading.table_of_rows joined]
  exact (f.reading size).tableOf_eq same

theorem load_sizes {f : StoredFile} {size size' : Nat} (joins : f.Joins size)
    (joins' : f.Joins size') :
    (∃ e e', f.load size = .error e ∧ f.load size' = .error e') ∨
      ∃ t, f.load size = .ok t ∧ f.load size' = .ok t := by
  cases opened : f.openFault? with
  | some e =>
    simp only [load,opened]
    exact .inl ⟨_,_,rfl,rfl⟩
  | none =>
    have fault := f.isSome_readFault?_eq size size'
    cases read : f.readFault? size <;> cases read' : f.readFault? size' <;> rw [read,read'] at fault
    case none.some => cases fault
    case some.none => cases fault
    case some.some =>
      simp only [load,opened,read,read']
      exact .inl ⟨_,_,rfl,rfl⟩
    case none.none =>
      rw [load_of_joins joins opened read,load_of_joins joins' opened read']
      -- Readings of one file differ by their batches only.
      have same : (f.reading size').tableOf f.readRows.2 =
        (f.reading size).tableOf f.readRows.2 := rfl
      rw [same]
      cases (f.reading size).tableOf f.readRows.2 with
      | error e => exact .inl ⟨e,e,rfl,rfl⟩
      | ok t => exact .inr ⟨t,rfl,rfl⟩

theorem load_divide {f : StoredFile} {counts : List Nat} {sum : counts.sum = f.rows.numRows}
    {layout : Layout} {size size' : Nat} (joins : f.Joins size)
    (joins' : (f.divide counts sum layout).Joins size') (read : f.readFault? size = none)
    (read' : (f.divide counts sum layout).readFault? size' = none) :
    AlikeButFooter (f.load size) ((f.divide counts sum layout).load size') := by
  cases opened : f.openFault? with
  | some e =>
    have opened' : (f.divide counts sum layout).openFault? = some e := opened
    rw [load,opened,load,opened']
    exact rfl
  | none =>
    have opened' : (f.divide counts sum layout).openFault? = none := opened
    rw [load_of_joins joins opened read,load_of_joins joins' opened' read']
    exact (f.reading size).tableOf_alike _ _ _ _ _

end StoredFile

end

/-- Loading does not depend on how the rows are batched. Whatever batches a reader hands back, the
rows that they hold together decide the table, except for its footer, or why there is none. A stored
file is cut into batches of at most the size given, which hold its rows. Joining them can fail, and
then nothing is loaded; plain concatenation never fails for the pieces of one table. Over all sizes
for which the batches are joined the file fails or gives one table, and the division of its rows into
row groups shows in the footer only. A size of zero acts as one. -/
theorem load_batching [ZoneDatabase] [BatchJoin] [LawfulJoin] :
    (∀ (r : Reading) (batches : List (Batch r.fields)) (rows rows' : Batch r.fields) (m : Metadata)
      (fileSize footerSize : Nat), r.rows = .ok rows → BatchJoin.join batches = .ok rows' →
      (∀ b ∈ r.batches, b.columns.Valid) → (∀ b ∈ batches, b.columns.Valid) →
      r.batches.flatMap Batch.values = batches.flatMap Batch.values →
      AlikeButFooter r.table
        (Reading.table ⟨r.fields,batches,r.schemaText,m,fileSize,footerSize⟩)) ∧
    (∀ (f : StoredFile) (size : Nat),
      (f.reading size).batches.flatMap Batch.values = f.readRows.2.values ∧
      ∀ b ∈ (f.reading size).batches, b.numRows ≤ max 1 size) ∧
    (∀ (f : StoredFile) (size : Nat), f.readRows.2.columns.Valid →
      f.Joins size ∨ ∃ e, f.load size = .error e ∧
        (f.openFault? = none → f.readFault? size = none →
          ∃ message, (f.reading size).rows = .error message ∧ e = .decode message)) ∧
    (∀ (f : StoredFile) (size : Nat), f.readRows.2.columns.Valid → f.readRows.2.columns.keysFit →
      @StoredFile.Joins .ofConcat f size) ∧
    (∀ (f : StoredFile) (size size' : Nat), f.Joins size → f.Joins size' →
      (∃ e e', f.load size = .error e ∧ f.load size' = .error e') ∨
        ∃ t, f.load size = .ok t ∧ f.load size' = .ok t) ∧
    (∀ (f : StoredFile) (counts : List Nat) (sum : counts.sum = f.rows.numRows) (layout : Layout)
      (size size' : Nat), f.Joins size → (f.divide counts sum layout).Joins size' →
      f.readFault? size = none → (f.divide counts sum layout).readFault? size' = none →
      AlikeButFooter (f.load size) ((f.divide counts sum layout).load size')) ∧
    ∀ f : StoredFile, f.load 0 = f.load 1 := by
  refine ⟨?any,fun f size => f.readRows.2.split_batches size,?join,
    fun f size valid fit => StoredFile.joins_ofConcat valid fit size,
    fun f size size' => StoredFile.load_sizes,
    fun f counts sum layout size size' => StoredFile.load_divide,StoredFile.load_zero⟩
  case any =>
    intro r batches rows rows' m fileSize footerSize joined joined' valid valid' same
    have values : rows.values = rows'.values :=
      (LawfulJoin.values joined valid).trans (same.trans (LawfulJoin.values joined' valid').symm)
    have there : Reading.rows ⟨r.fields,batches,r.schemaText,m,fileSize,footerSize⟩ = .ok rows' :=
      joined'
    rw [Reading.table_of_rows joined,Reading.table_of_rows there,r.tableOf_eq values]
    exact r.tableOf_alike rows' batches m fileSize footerSize
  case join =>
    intro f size valid
    cases joined : (f.reading size).rows with
    | ok rows => exact .inl (StoredFile.joins_of_rows valid joined)
    | error message =>
      obtain ⟨e,fails,cause⟩ := StoredFile.load_of_error joined
      exact .inr ⟨e,fails,fun opened read => ⟨message,rfl,cause opened read⟩⟩

def StoredFile.ofMixedRows : StoredFile :=
  let seven : Arrow.FixedInt true 32 := .wrap 32 7
  { StoredFile.ofThreeRows with
    fields := .cons (.mk "word" (.dictionary (.scalar (.integer .int8)) (.scalar (.utf8 .short))) true)
      (.cons (.mk "list" (.list .list (.mk "item" (.scalar (.integer .int32)) true)) true)
      (.cons (.mk "at" (.scalar (.timestamp .second (some "Europe/Paris"))) true) .nil))
    rows := ⟨3,.cons (.dictionary [some 1,none,some 0] (.scalar [some "a",some "b"]))
      (.cons (.list [some (0,2),none,some (2,1)] (.scalar [some seven,none,some seven]))
      (.cons (Arrow.momentsIn "Europe/Paris") .nil)),by decide⟩
    groupRows_sum := StoredFile.ofThreeRows.groupRows_sum }

attribute [local instance] Arrow.parisZones BatchJoin.ofConcat

theorem load_batching_of_mixed_rows :
    let f := StoredFile.ofMixedRows
    (∃ t, f.load 1 = .ok t ∧ f.load 5 = .ok t ∧
      t.columns.map (·.cells) =
        [[.other "b",.null,.other "a"],[.other "[7, ]",.null,.other "[7]"],
          [.other "2024-07-01T14:00:00+02:00",.null,.other "2024-01-01T13:00:00+01:00"]]) ∧
    AlikeButFooter (f.load 5) ((f.divide (evenGroups 1 3) (sum_evenGroups 1 3)
      ⟨9,9,fun _ => 9,fun _ _ => ⟨9,9,9⟩⟩).load 1) := by
  intro f
  have valid : f.readRows.2.columns.Valid := by
    change ((_ ∧ True) ∧ (_ ∧ True) ∧ (_ ∧ True))
    exact ⟨⟨by decide,trivial⟩,⟨by decide,trivial⟩,trivial,trivial⟩
  obtain ⟨-,-,-,joins,sizes,groups,-⟩ := load_batching
  have one : f.Joins 1 := joins f 1 valid rfl
  have five : f.Joins 5 := joins f 5 valid rfl
  have read : ∀ {counts : List Nat} (sum : counts.sum = 3) (layout : Layout), counts = [1,1,1] →
      (f.divide counts sum layout).readFault? 1 = none := by
    rintro _ _ _ rfl
    rfl
  have alone : evenGroups 1 3 = [1,1,1] := by simp [evenGroups,Batch.ranges]
  refine ⟨?_,groups f _ (sum_evenGroups 1 3) _ 5 1 five one rfl (read _ _ alone)⟩
  have loaded : ∃ t, (f.reading 5).tableOf f.readRows.2 = .ok t ∧ t.columns.map (·.cells) =
      [[.other "b",.null,.other "a"],[.other "[7, ]",.null,.other "[7]"],
        [.other "2024-07-01T14:00:00+02:00",.null,.other "2024-01-01T13:00:00+01:00"]] :=
    ⟨_,rfl,rfl⟩
  rw [← StoredFile.load_of_joins five rfl rfl] at loaded
  obtain ⟨t,ht,cells⟩ := loaded
  rcases sizes f 1 5 one five with ⟨e,e',-,fails⟩ | ⟨t',ht',ht''⟩
  · cases fails.symm.trans ht
  · cases ht''.symm.trans ht
    exact ⟨t,ht',ht,cells⟩

end Parquet
end ColumnarReport
