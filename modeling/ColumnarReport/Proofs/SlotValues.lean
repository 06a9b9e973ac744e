import Mathlib
import ColumnarReport.Arrow.BatchText

/-! What slots hold, apart from how arrays store it. Child arrays, dictionaries, runs and windows are
looked through, so that different arrays can hold the same values. All that the report reads of an
array, whether a slot is null, its text and its cell, is decided by the values. -/
namespace ColumnarReport
namespace Arrow

inductive Value
  | null
  | scalar (t : ScalarType) (value : t.Carrier)
  | list (items : List Value)
  | struct (members : List Value)
  | choice (place : Nat) (member : Value)

/-- A union slot is null where its member is. -/
def Value.isNull : Value → Bool
  | null => true
  | choice _ member => member.isNull
  | _ => false

mutual

def Slots.value {t : DataType} (s : Slots t) (i : Nat) : Value :=
  match s with
  | .null _ => .null
  | .scalar (t := t) values =>
    match values[i]?.join with
    | none => .null
    | some v => .scalar t v
  | .list ranges child =>
    match ranges[i]?.join with
    | none => .null
    | some (start,len) => .list ((List.range' start len).map child.value)
  | @Slots.fixedSizeList _ size present child =>
    if present[i]?.getD false then
      .list ((List.range' (i*size.toNat) size.toNat).map child.value)
    else .null
  | .struct present columns =>
    if present[i]?.getD false then .struct (columns.values i) else .null
  | .map ranges child =>
    match ranges[i]?.join with
    | none => .null
    | some (start,len) => .list ((List.range' start len).map child.entry)
  | .dictionary keys values =>
    match keys[i]?.join with
    | none => .null
    | some k => values.value k
  | .runs ends offset _ values => values.value (runAt ends (offset+i))
  | .union members columns =>
    match members[i]? with
    | none => .null
    | some (place,j) => .choice place (columns.choice place j)

/-- An entry of a map counts whether or not its slot is set. -/
def Slots.entry {t : DataType} (s : Slots t) (i : Nat) : Value :=
  match s with
  | .struct _ columns => .struct (columns.values i)
  | _ => .null

def Columns.values {fs : Fields} (c : Columns fs) (i : Nat) : List Value :=
  match c with
  | .nil => []
  | .cons head tail => head.value i :: tail.values i

def Columns.choice {fs : Fields} (c : Columns fs) (place i : Nat) : Value :=
  match c,place with
  | .nil,_ => .null
  | .cons head _,0 => head.value i
  | .cons _ tail,place+1 => tail.choice place i

end

def Slots.values {t : DataType} (s : Slots t) : List Value := (List.range s.length).map s.value

def Batch.values {fs : Fields} (b : Batch fs) : List (List Value) :=
  (List.range b.numRows).map b.columns.values

mutual

theorem Slots.isNull_eq {t : DataType} (s : Slots t) (i : Nat) : s.isNull i = (s.value i).isNull :=
  match s with
  | .null _ => by simp [Slots.isNull,Slots.value,Value.isNull]
  | .scalar values => by
    simp only [Slots.isNull,Slots.value]
    cases values[i]?.join <;> rfl
  | .list ranges child => by
    simp only [Slots.isNull,Slots.value]
    cases ranges[i]?.join <;> rfl
  | .fixedSizeList present child => by
    simp only [Slots.isNull,Slots.value]
    cases present[i]?.getD false <;> rfl
  | .struct present columns => by
    simp only [Slots.isNull,Slots.value]
    cases present[i]?.getD false <;> rfl
  | .map ranges child => by
    simp only [Slots.isNull,Slots.value]
    cases ranges[i]?.join <;> rfl
  | .dictionary keys values => by
    simp only [Slots.isNull,Slots.value]
    cases keys[i]?.join with
    | none => rfl
    | some k => exact Slots.isNull_eq values k
  | .runs ends offset _ values => by
    simp only [Slots.isNull,Slots.value]
    exact Slots.isNull_eq values _
  | .union members columns => by
    simp only [Slots.isNull,Slots.value]
    cases members[i]? with
    | none => rfl
    | some m => exact Columns.isNull_eq columns m.1 m.2

theorem Columns.isNull_eq {fs : Fields} (c : Columns fs) (place i : Nat) :
    c.isNull place i = (c.choice place i).isNull :=
  match c,place with
  | .nil,_ => by simp [Columns.isNull,Columns.choice,Value.isNull]
  | .cons head _,0 => by
    simp only [Columns.isNull,Columns.choice]
    exact Slots.isNull_eq head i
  | .cons _ tail,place+1 => by
    simp only [Columns.isNull,Columns.choice]
    exact Columns.isNull_eq tail place i

end

/-- Where equal images come from positions that agree otherwise too, the other images are equal. -/
theorem map_eq_of_map_eq {α β γ δ : Type} {f : α → γ} {g : β → γ} (f' : α → δ) (g' : β → δ)
    (step : ∀ x y, f x = g y → f' x = g' y) {xs : List α} {ys : List β} (h : xs.map f = ys.map g) :
    xs.map f' = ys.map g' := by
  induction xs generalizing ys with
  | nil =>
    cases ys with
    | nil => rfl
    | cons y ys => simp at h
  | cons x xs ih =>
    cases ys with
    | nil => simp at h
    | cons y ys =>
      simp only [List.map_cons,List.cons.injEq] at h ⊢
      exact ⟨step x y h.1,ih h.2⟩

theorem Slots.length_values {t : DataType} (s : Slots t) : s.values.length = s.length := by
  simp [Slots.values]

def Value.ofScalar {t : ScalarType} : Option t.Carrier → Value
  | none => .null
  | some v => .scalar t v

theorem Slots.values_scalar {t : ScalarType} (values : List (Option t.Carrier)) :
    (Slots.scalar values).values = values.map Value.ofScalar := by
  refine List.ext_getElem (by simp [Slots.values,Slots.length]) fun i hi _ => ?_
  have hi : i < values.length := by simpa [Slots.values,Slots.length] using hi
  simp only [Slots.values,List.getElem_map,List.getElem_range,Slots.value,
    List.getElem?_eq_getElem hi,Option.join_some]
  cases values[i] <;> rfl

variable [ZoneDatabase]

theorem Slots.text_of_null {t : DataType} {s : Slots t} {i : Nat} (h : s.value i = .null) :
    s.text i = .plain "" :=
  match s with
  | .null _ => by simp only [Slots.text]
  | .scalar values => by
    simp only [Slots.value] at h
    simp only [Slots.text]
    cases hv : values[i]?.join with
    | none => rfl
    | some v => simp [hv] at h
  | .list ranges child => by
    simp only [Slots.value] at h
    simp only [Slots.text]
    cases hr : ranges[i]?.join with
    | none => rfl
    | some r => simp [hr] at h
  | .fixedSizeList present child => by
    simp only [Slots.value] at h
    simp only [Slots.text]
    cases hp : present[i]?.getD false with
    | false => rfl
    | true => simp [hp] at h
  | .struct present columns => by
    simp only [Slots.value] at h
    simp only [Slots.text]
    cases hp : present[i]?.getD false with
    | false => rfl
    | true => simp [hp] at h
  | .map ranges child => by
    simp only [Slots.value] at h
    simp only [Slots.text]
    cases hr : ranges[i]?.join with
    | none => rfl
    | some r => simp [hr] at h
  | .dictionary keys values => by
    simp only [Slots.value] at h
    simp only [Slots.text]
    cases hk : keys[i]?.join with
    | none => rfl
    | some k =>
      rw [hk] at h
      exact Slots.text_of_null h
  | .runs ends offset _ values => by
    simp only [Slots.value] at h
    simp only [Slots.text]
    exact Slots.text_of_null h
  | .union members columns => by
    simp only [Slots.value] at h
    simp only [Slots.text]
    cases hm : members[i]? with
    | none => rfl
    | some m => simp [hm] at h

mutual

/-- Slots with equal values have equal texts. Recursion on both arrays, which are of one type. -/
theorem Slots.text_eq {t : DataType} {s s' : Slots t} {i j : Nat} (h : s.value i = s'.value j) :
    s.text i = s'.text j :=
  match s,s' with
  | .null _,.null _ => by simp only [Slots.text]
  | .scalar values,.scalar values' => by
    simp only [Slots.value] at h
    simp only [Slots.text]
    cases hv : values[i]?.join <;> cases hv' : values'[j]?.join <;> simp_all
  | .list ranges child,.list ranges' child' => by
    simp only [Slots.value] at h
    simp only [Slots.text]
    rcases hr : ranges[i]?.join with _ | ⟨start,len⟩ <;>
      rcases hr' : ranges'[j]?.join with _ | ⟨start',len'⟩ <;> simp only [hr,hr'] at h ⊢
    case some.some =>
      have texts := map_eq_of_map_eq child.text child'.text (fun x y => Slots.text_eq)
        (Value.list.inj h)
      rw [texts]
    all_goals cases h
  | @Slots.fixedSizeList _ size present child,.fixedSizeList present' child' => by
    simp only [Slots.value] at h
    simp only [Slots.text]
    cases hp : present[i]?.getD false <;> cases hp' : present'[j]?.getD false <;>
      simp only [hp,hp',Bool.false_eq_true,if_false,if_true] at h ⊢
    case true.true =>
      have texts := map_eq_of_map_eq child.text child'.text (fun x y => Slots.text_eq)
        (Value.list.inj h)
      rw [texts]
    all_goals cases h
  | .struct present columns,.struct present' columns' => by
    simp only [Slots.value] at h
    simp only [Slots.text]
    cases hp : present[i]?.getD false <;> cases hp' : present'[j]?.getD false <;>
      simp only [hp,hp',Bool.false_eq_true,if_false,if_true] at h ⊢
    case true.true => rw [Columns.memberTexts_eq (Value.struct.inj h)]
    all_goals cases h
  | .map ranges child,.map ranges' child' => by
    simp only [Slots.value] at h
    simp only [Slots.text]
    rcases hr : ranges[i]?.join with _ | ⟨start,len⟩ <;>
      rcases hr' : ranges'[j]?.join with _ | ⟨start',len'⟩ <;> simp only [hr,hr'] at h ⊢
    case some.some =>
      have texts := map_eq_of_map_eq child.entryText child'.entryText
        (fun x y => Slots.entryText_eq) (Value.list.inj h)
      rw [texts]
    all_goals cases h
  | .dictionary keys values,.dictionary keys' values' => by
    simp only [Slots.value] at h
    simp only [Slots.text]
    -- A null key and a key of a null value stand for the same.
    cases hk : keys[i]?.join <;> cases hk' : keys'[j]?.join <;> simp only [hk,hk'] at h
    case none.none => rfl
    case none.some => exact (Slots.text_of_null h.symm).symm
    case some.none => exact Slots.text_of_null h
    case some.some => exact Slots.text_eq h
  | .runs ends offset _ values,.runs ends' offset' _ values' => by
    simp only [Slots.value] at h
    simp only [Slots.text]
    exact Slots.text_eq h
  | .union members columns,.union members' columns' => by
    simp only [Slots.value] at h
    simp only [Slots.text]
    cases hm : members[i]? <;> cases hm' : members'[j]? <;> simp only [hm,hm'] at h
    case none.none => rfl
    case some.some m m' =>
      obtain ⟨place,member⟩ := Value.choice.inj h
      simp only [place] at member ⊢
      rw [Columns.choiceText_eq member]
    all_goals cases h

theorem Slots.entryText_eq {t : DataType} {s s' : Slots t} {i j : Nat}
    (h : s.entry i = s'.entry j) : s.entryText i = s'.entryText j :=
  match s,s' with
  | .struct _ (.cons keys (.cons values _)),.struct _ (.cons keys' (.cons values' _)) => by
    simp only [Slots.entry,Columns.values,Value.struct.injEq,List.cons.injEq] at h
    change keys.text i++.plain ": "++values.text i = keys'.text j++.plain ": "++values'.text j
    rw [Slots.text_eq h.1,Slots.text_eq h.2.1]
  | .struct _ .nil,.struct _ .nil => rfl
  | .struct _ (.cons _ .nil),.struct _ (.cons _ .nil) => rfl
  | .null _,.null _ => rfl
  | .scalar _,.scalar _ => rfl
  | .list _ _,.list _ _ => rfl
  | .fixedSizeList _ _,.fixedSizeList _ _ => rfl
  | .map _ _,.map _ _ => rfl
  | .dictionary _ _,.dictionary _ _ => rfl
  | .runs _ _ _ _,.runs _ _ _ _ => rfl
  | .union _ _,.union _ _ => rfl

theorem Columns.memberTexts_eq {fs : Fields} {c c' : Columns fs} {i j : Nat}
    (h : c.values i = c'.values j) : c.memberTexts i = c'.memberTexts j :=
  match c,c' with
  | .nil,.nil => by simp only [Columns.memberTexts]
  | .cons head tail,.cons head' tail' => by
    simp only [Columns.values,List.cons.injEq] at h
    simp only [Columns.memberTexts]
    rw [Slots.text_eq h.1,Columns.memberTexts_eq h.2]

theorem Columns.choiceText_eq {fs : Fields} {c c' : Columns fs} {place i j : Nat}
    (h : c.choice place i = c'.choice place j) : c.choiceText place i = c'.choiceText place j :=
  match c,c',place with
  | .nil,.nil,_ => by simp only [Columns.choiceText]
  | .cons head _,.cons head' _,0 => by
    simp only [Columns.choice] at h
    simp only [Columns.choiceText]
    rw [Slots.text_eq h]
  | .cons _ tail,.cons _ tail',place+1 => by
    simp only [Columns.choice] at h
    simp only [Columns.choiceText]
    exact Columns.choiceText_eq h

end

theorem shownCells_eq {t : DataType} {s s' : Slots t} (h : s.values = s'.values) :
    shownCells s = shownCells s' := by
  have step : ∀ i j, s.value i = s'.value j → shownCell s i = shownCell s' j := by
    intro i j h
    rw [shownCell,shownCell,Slots.isNull_eq,Slots.isNull_eq,h,Slots.text_eq h]
  rw [shownCells,shownCells,map_eq_of_map_eq (shownCell s) (shownCell s') step h]

/-- Slots with equal values give equal cells, or none for the same reason. -/
theorem cells_eq {t : DataType} {s s' : Slots t} (h : s.values = s'.values) :
    cells s = cells s' := by
  cases s with
  | null n =>
    cases s' with
    | null m =>
      have lengths := congrArg List.length h
      simp only [Slots.length_values,Slots.length] at lengths
      rw [lengths]
  | @scalar t values =>
    cases s' with
    | scalar values' =>
      simp only [cells]
      cases direct? t with
      | none => exact shownCells_eq h
      | some f =>
        rw [Slots.values_scalar,Slots.values_scalar] at h
        refine congrArg Except.ok (map_eq_of_map_eq _ _ (fun v v' h => ?_) h)
        cases v <;> cases v' <;> cases h <;> rfl
  | list | fixedSizeList | struct | map | dictionary | runs | union =>
    cases s'
    exact shownCells_eq h

namespace Columns

theorem decode_eq {fs : Fields} {c c' : Columns fs} {n : Nat} (hc : c.haveLength n)
    (hc' : c'.haveLength n) (h : ∀ i < n, c.values i = c'.values i) : c.decode = c'.decode :=
  match c,c' with
  | .nil,.nil => rfl
  | .cons head tail,.cons head' tail' => by
    simp only [haveLength,Bool.and_eq_true,beq_iff_eq] at hc hc'
    simp only [values,List.cons.injEq] at h
    have first : head.values = head'.values := by
      rw [Slots.values,Slots.values,hc.1,hc'.1]
      exact List.map_congr_left fun i hi => (h i (List.mem_range.mp hi)).1
    have rest := decode_eq hc.2 hc'.2 fun i hi => (h i hi).2
    rw [decode,decode,cells_eq first,rest]

theorem texts_eq {fs : Fields} {c c' : Columns fs} {i j : Nat} (h : c.values i = c'.values j) :
    c.texts i = c'.texts j :=
  match c,c' with
  | .nil,.nil => rfl
  | .cons head tail,.cons head' tail' => by
    simp only [values,List.cons.injEq] at h
    rw [texts,texts,Slots.text_eq h.1,texts_eq h.2]

end Columns

end Arrow
end ColumnarReport
