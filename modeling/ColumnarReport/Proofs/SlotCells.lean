import Mathlib
import ColumnarReport.Proofs.Concatenation
import ColumnarReport.Proofs.NumericColumns

/-! Cells are decoded slot by slot. The type alone says whether an array is decoded. There is a cell for
each slot, absent just where the slot is null by what it refers to, and the cells of a window are
those of its range. -/
namespace ColumnarReport
namespace Arrow

mutual

/-- A slot is null everywhere in an array of the null type, where the mask leaves it out, and where
the dictionary value of its key, the value of its run or the member that it names is null. -/
inductive Slots.NullAt : {t : DataType} → Slots t → Nat → Prop
  | null (n i : Nat) : Slots.NullAt (.null n) i
  | unset {t : DataType} {s : Slots t} {i : Nat} (h : s.isUnset i) : Slots.NullAt s i
  | key {key value : DataType} {keys : List (Option Nat)} {values : Slots value} {i k : Nat}
      (hk : keys[i]? = some (some k)) (h : Slots.NullAt values k) :
      Slots.NullAt (.dictionary keys values : Slots (.dictionary key value)) i
  | run {runEnds values : Field} {ends : List Nat} {offset n i : Nat} {runValues : Slots values.type}
      (h : Slots.NullAt runValues (runAt ends (offset+i))) :
      Slots.NullAt (.runs ends offset n runValues : Slots (.runEndEncoded runEnds values)) i
  | member {mode : UnionMode} {ids : List Int} {fields : Fields} {members : List (Nat × Nat)}
      {columns : Columns fields} {i : Nat}
      (h : ∀ m ∈ members[i]?, Columns.NullAt columns m.1 m.2) :
      Slots.NullAt (.union members columns : Slots (.union mode ids fields)) i

inductive Columns.NullAt : {fs : Fields} → Columns fs → Nat → Nat → Prop
  | none (place i : Nat) : Columns.NullAt .nil place i
  | head {f : Field} {fs : Fields} {column : Slots f.type} {columns : Columns fs} {i : Nat}
      (h : Slots.NullAt column i) : Columns.NullAt (.cons column columns) 0 i
  | tail {f : Field} {fs : Fields} {column : Slots f.type} {columns : Columns fs} {place i : Nat}
      (h : Columns.NullAt columns place i) : Columns.NullAt (.cons column columns) (place+1) i

end

theorem Slots.isNull_of_isUnset {t : DataType} {s : Slots t} {i : Nat} (h : s.isUnset i) :
    s.isNull i := by
  cases s with
  | scalar | list | fixedSizeList | struct | map => simpa only [Slots.isNull,Slots.isUnset] using h
  | dictionary keys values =>
    simp only [isUnset,Option.isNone_iff_eq_none] at h
    simp only [isNull,h]
  | null | runs | union => cases h

mutual

theorem Slots.isNull_of_nullAt {t : DataType} {s : Slots t} {i : Nat} (h : s.NullAt i) :
    s.isNull i := by
  cases h with
  | null => simp only [Slots.isNull]
  | unset h => exact Slots.isNull_of_isUnset h
  | key hk h =>
    simp only [Slots.isNull,hk,Option.join_some]
    exact Slots.isNull_of_nullAt h
  | run h =>
    simp only [Slots.isNull]
    exact Slots.isNull_of_nullAt h
  | @member _ _ _ members _ _ h =>
    simp only [Slots.isNull]
    cases hm : members[i]? with
    | none => rfl
    | some m => exact Columns.isNull_of_nullAt (h m hm)

theorem Columns.isNull_of_nullAt {fs : Fields} {c : Columns fs} {place i : Nat}
    (h : c.NullAt place i) : c.isNull place i := by
  cases h with
  | none => simp only [Columns.isNull]
  | head h =>
    simp only [Columns.isNull]
    exact Slots.isNull_of_nullAt h
  | tail h =>
    simp only [Columns.isNull]
    exact Columns.isNull_of_nullAt h

end

mutual

theorem Slots.nullAt_of_isNull {t : DataType} {s : Slots t} {i : Nat} (h : s.isNull i) :
    s.NullAt i :=
  match s with
  | .null n => .null n i
  | .scalar _ => .unset (by simpa only [Slots.isNull,Slots.isUnset] using h)
  | .list _ _ => .unset (by simpa only [Slots.isNull,Slots.isUnset] using h)
  | .fixedSizeList _ _ => .unset (by simpa only [Slots.isNull,Slots.isUnset] using h)
  | .struct _ _ => .unset (by simpa only [Slots.isNull,Slots.isUnset] using h)
  | .map _ _ => .unset (by simpa only [Slots.isNull,Slots.isUnset] using h)
  | .dictionary keys values => by
    simp only [Slots.isNull] at h
    cases hk : keys[i]?.join with
    | none => exact .unset (by simp only [Slots.isUnset,hk,Option.isNone_none])
    | some k =>
      rw [hk] at h
      exact .key (Option.join_eq_some_iff.mp hk) (Slots.nullAt_of_isNull h)
  | .runs ends offset _ values => by
    simp only [Slots.isNull] at h
    exact .run (Slots.nullAt_of_isNull h)
  | .union members columns => by
    simp only [Slots.isNull] at h
    refine .member fun m hm => ?_
    rw [Option.mem_def.mp hm] at h
    exact Columns.nullAt_of_isNull h

theorem Columns.nullAt_of_isNull {fs : Fields} {c : Columns fs} {place i : Nat}
    (h : c.isNull place i) : c.NullAt place i :=
  match c,place with
  | .nil,place => .none place i
  | .cons head _,0 => by
    simp only [Columns.isNull] at h
    exact .head (Slots.nullAt_of_isNull h)
  | .cons _ tail,place+1 => by
    simp only [Columns.isNull] at h
    exact .tail (Columns.nullAt_of_isNull h)

end

theorem Slots.isNull_iff {t : DataType} {s : Slots t} {i : Nat} : s.isNull i ↔ s.NullAt i :=
  ⟨Slots.nullAt_of_isNull,Slots.isNull_of_nullAt⟩

section

variable {α β : Type}

theorem map_cut (f : α → β) (xs : List α) (offset len : Nat) :
    (cut xs offset len).map f = cut (xs.map f) offset len := by
  rw [cut,cut,List.map_take,List.map_drop]

theorem map_range_cut {f g : Nat → α} {n offset len : Nat} (h : ∀ i < len, g i = f (offset+i)) :
    (List.range (min len (n-offset))).map g = cut ((List.range n).map f) offset len := by
  refine List.ext_getElem (by simp [cut]) fun i hi _ => ?_
  rw [List.length_map,List.length_range] at hi
  simp only [cut,List.getElem_map,List.getElem_range,List.getElem_take,List.getElem_drop]
  exact h i (by omega)

end

theorem direct_ne_null {t : ScalarType} {f : t.Carrier → Cell} (h : direct? t = some f)
    (v : t.Carrier) : f v ≠ .null := by
  unfold direct? at h
  split at h <;> cases h <;> exact Cell.noConfusion

section

variable [ZoneDatabase] {t : DataType} {cs : List Cell}

theorem fault?_of_direct {t : ScalarType} {f : t.Carrier → Cell} (h : direct? t = some f) :
    (DataType.scalar t).fault? = none := by
  cases t <;> first | rfl | cases h

theorem shownCell_eq_null_iff {s : Slots t} {i : Nat} : shownCell s i = .null ↔ s.NullAt i := by
  rw [← Slots.isNull_iff,shownCell]
  split_ifs with null <;> simp [null]

theorem shownCell_slice (s : Slots t) (offset : Nat) {len i : Nat} (h : i < len) :
    shownCell (s.slice offset len) i = shownCell s (offset+i) := by
  have value := s.value_slice offset h
  rw [shownCell,shownCell,Slots.isNull_eq,Slots.isNull_eq,value,Slots.text_eq value]

theorem shownCells_of_no_fault (h : t.fault? = none) (s : Slots t) :
    shownCells s = .ok ((List.range s.length).map (shownCell s)) := by
  rw [shownCells,h]

theorem shownCells_slice (h : t.fault? = none) (s : Slots t) (offset len : Nat) :
    shownCells (s.slice offset len) =
      .ok (cut ((List.range s.length).map (shownCell s)) offset len) := by
  rw [shownCells_of_no_fault h,Slots.length_slice]
  exact congrArg Except.ok (map_range_cut fun i hi => shownCell_slice s offset hi)

/-- Slots are decoded one by one: there is a cell for each of them, absent where the slot is null, and
a window has the cells of its range. -/
structure SlotWise (s : Slots t) (cs : List Cell) : Prop where
  length : cs.length = s.length
  null : ∀ i, cs[i]? = some .null ↔ i < s.length ∧ s.NullAt i
  slice : ∀ offset len, cells (s.slice offset len) = .ok (cut cs offset len)

theorem slotWise_of_shown (h : t.fault? = none) {s : Slots t} (shown : cells s = shownCells s)
    (slices : ∀ offset len, cells (s.slice offset len) = shownCells (s.slice offset len)) :
    ∃ cs, cells s = .ok cs ∧ SlotWise s cs := by
  refine ⟨_,shown.trans (shownCells_of_no_fault h s),by simp,fun i => ?_,fun offset len => ?_⟩
  · rw [List.getElem?_map]
    by_cases inside : i < s.length
    · rw [List.getElem?_range inside,Option.map_some,Option.some_inj,shownCell_eq_null_iff]
      exact (and_iff_right inside).symm
    · simp [inside]
  · rw [slices,shownCells_slice h]

theorem slotWise_null (n : Nat) : SlotWise (.null n) (List.replicate n .null) where
  length := by simp [Slots.length]
  null i := by simp [Slots.length,List.getElem?_replicate,Slots.NullAt.null]
  slice offset len := by simp [Slots.slice,cells,cut]

theorem slotWise_scalar {t : ScalarType} {f : t.Carrier → Cell} (h : direct? t = some f)
    (values : List (Option t.Carrier)) :
    SlotWise (.scalar values) (values.map fun v => (v.map f).getD .null) where
  length := by simp [Slots.length]
  null i := by
    rw [← Slots.isNull_iff,Slots.isNull,Slots.length,List.getElem?_map]
    rcases hv : values[i]? with _ | _ | v
    · have outside := List.getElem?_eq_none_iff.mp hv
      simp [outside]
    · have inside := (List.getElem?_eq_some_iff.mp hv).1
      simp [inside]
    · simp [direct_ne_null h v]
  slice offset len := by rw [Slots.slice,cells_scalar h,map_cut]

theorem cells_of_fault {e : DecodeError} (h : t.fault? = some e) (s : Slots t) :
    cells s = .error e := by
  have shown : shownCells s = .error e := by rw [shownCells,h]
  cases s with
  | null => cases h
  | @scalar t values =>
    cases direct : direct? t with
    | some f => cases (fault?_of_direct direct).symm.trans h
    | none => simpa only [cells,direct] using shown
  | list | fixedSizeList | struct | map | dictionary | runs | union => exact shown

theorem exists_slotWise (h : t.fault? = none) (s : Slots t) :
    ∃ cs, cells s = .ok cs ∧ SlotWise s cs := by
  cases s with
  | null n => exact ⟨_,rfl,slotWise_null n⟩
  | @scalar t values =>
    cases direct : direct? t with
    | some f => exact ⟨_,cells_scalar direct,slotWise_scalar direct values⟩
    | none =>
      have shown (values : List (Option t.Carrier)) :
          cells (.scalar values) = shownCells (.scalar values) := by simp only [cells,direct]
      refine slotWise_of_shown h (shown values) fun offset len => ?_
      rw [Slots.slice,shown]
  | list | fixedSizeList | struct | map | dictionary | runs | union =>
    refine slotWise_of_shown h rfl fun offset len => ?_
    simp only [Slots.slice,cells]

/-- The type of an array alone says whether it is decoded, and if not, why. If it is, it is decoded slot
by slot. -/
theorem cells_slotWise (t : DataType) :
    (∃ e, t.fault? = some e ∧ ∀ s : Slots t, cells s = .error e) ∨
      t.fault? = none ∧ ∀ s : Slots t, ∃ cs, cells s = .ok cs ∧ SlotWise s cs := by
  cases h : t.fault? with
  | some e => exact .inl ⟨e,rfl,cells_of_fault h⟩
  | none => exact .inr ⟨rfl,exists_slotWise h⟩

/-- A slot without a key and one whose key stands for a null are both absent. -/
example :
    let words : Slots (.scalar (.utf8 .short)) := .scalar [some "x",none]
    let s : Slots (.dictionary (.scalar (.integer .int32)) (.scalar (.utf8 .short))) :=
      .dictionary [some 0,none,some 1] words
    cells s = .ok [.other "x",.null,.null] := rfl

end

attribute [local instance] parisZones

/-- A zone has its own offset at each moment; a name that the database does not know leaves no cells. -/
theorem cells_slotWise_of_zones :
    (∃ cs, cells (momentsIn "Europe/Paris") = .ok cs ∧ SlotWise (momentsIn "Europe/Paris") cs ∧
      cs = [.other "2024-07-01T14:00:00+02:00",.null,.other "2024-01-01T13:00:00+01:00"]) ∧
    cells (momentsIn "Paris") = .error (.invalidZone "Paris") := by
  constructor
  · rcases cells_slotWise (.scalar (.timestamp .second (some "Europe/Paris"))) with
      ⟨e,fault,-⟩ | ⟨-,decoded⟩
    · cases fault
    · obtain ⟨cs,hcs,slotWise⟩ := decoded (momentsIn "Europe/Paris")
      exact ⟨cs,hcs,slotWise,(Except.ok.inj hcs).symm⟩
  · rcases cells_slotWise (.scalar (.timestamp .second (some "Paris"))) with
      ⟨e,fault,fails⟩ | ⟨known,-⟩
    · obtain rfl := Option.some.inj fault
      exact fails _
    · cases known

end Arrow
end ColumnarReport
