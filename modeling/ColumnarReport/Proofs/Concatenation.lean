import Mathlib
import ColumnarReport.Proofs.SlotValues

/-! What windows and concatenations of arrays hold. A window holds the values of its range, and a
concatenation those of one array and then those of the other, though the ranges, keys, runs and
members of the other are all counted anew. -/
namespace ColumnarReport
namespace Arrow

def RangesWithin (ranges : List (Option (Nat × Nat))) (n : Nat) : Prop :=
  ∀ r ∈ ranges, ∀ x ∈ r, x.1+x.2 ≤ n

instance (ranges : List (Option (Nat × Nat))) (n : Nat) : Decidable (RangesWithin ranges n) :=
  inferInstanceAs (Decidable (∀ r ∈ ranges, ∀ x ∈ r, x.1+x.2 ≤ n))

mutual

/-- What arrays are built to keep: ranges, keys, runs and members lie within the arrays that they
refer to, and structures and lists of a fixed size have as many members as their slots need. -/
def Slots.Valid {t : DataType} (s : Slots t) : Prop :=
  match s with
  | .null _ => True
  | .scalar _ => True
  | .list ranges child => RangesWithin ranges child.length ∧ child.Valid
  | @Slots.fixedSizeList _ size present child =>
    child.length = present.length*size.toNat ∧ child.Valid
  | .struct present columns => columns.haveLength present.length ∧ columns.Valid
  | .map ranges child => RangesWithin ranges child.length ∧ child.Valid
  | .dictionary keys values => (∀ k ∈ keys, ∀ i ∈ k, i < values.length) ∧ values.Valid
  | .runs ends offset n values =>
    (ends.length = values.length ∧ ∀ i < n, runAt ends (offset+i) < ends.length) ∧ values.Valid
  | .union members columns => (∀ m ∈ members, m.2 < columns.lengthAt m.1) ∧ columns.Valid

def Columns.Valid {fs : Fields} (c : Columns fs) : Prop :=
  match c with
  | .nil => True
  | .cons head tail => head.Valid ∧ tail.Valid

end

section

variable {α : Type} {f g : Nat → α}

/-- The images of a range are those of another one that stands `d` places on. -/
theorem map_range'_shift {d start start' len : Nat} (hs : start' = d+start)
    (h : ∀ i, start ≤ i → i < start+len → f i = g (d+i)) :
    (List.range' start len).map f = (List.range' start' len).map g := by
  rw [hs,← List.map_add_range',List.map_map]
  refine List.map_congr_left fun i hi => ?_
  obtain ⟨lower,upper⟩ := List.mem_range'_1.mp hi
  exact h i lower upper

theorem getElem?_append_length_add (xs ys : List α) (i : Nat) :
    (xs++ys)[xs.length+i]? = ys[i]? := by
  rw [List.getElem?_append_right (Nat.le_add_right _ _),Nat.add_sub_cancel_left]

theorem getElem?_cut (xs : List α) (offset : Nat) {len i : Nat} (h : i < len) :
    (cut xs offset len)[i]? = xs[offset+i]? := by
  rw [cut,List.getElem?_take_of_lt h,List.getElem?_drop]

end

theorem item_lt {i n size k : Nat} (h : i < n) (hk : k < i*size+size) : k < n*size := by
  have : (i+1)*size ≤ n*size := Nat.mul_le_mul_right _ h
  rw [Nat.succ_mul] at this
  omega

/-! ### Windows -/

mutual

theorem Slots.value_slice {t : DataType} (s : Slots t) (offset : Nat) {len i : Nat} (h : i < len) :
    (s.slice offset len).value i = s.value (offset+i) :=
  match s with
  | .null _ => by simp only [Slots.slice,Slots.value]
  | .scalar values => by
    simp only [Slots.slice,Slots.value]
    rw [getElem?_cut values offset h]
  | .list ranges child => by
    simp only [Slots.slice,Slots.value]
    rw [getElem?_cut ranges offset h]
  | @Slots.fixedSizeList _ size present child => by
    simp only [Slots.slice,Slots.value]
    rw [getElem?_cut present offset h]
    have items : (List.range' (i*size.toNat) size.toNat).map
          (child.slice (offset*size.toNat) (len*size.toNat)).value =
        (List.range' ((offset+i)*size.toNat) size.toNat).map child.value := by
      refine map_range'_shift (Nat.add_mul offset i size.toNat) fun k _ hk => ?_
      exact child.value_slice (offset*size.toNat) (item_lt h hk)
    rw [items]
  | .struct present columns => by
    simp only [Slots.slice,Slots.value]
    rw [getElem?_cut present offset h,columns.values_slice offset h]
  | .map ranges child => by
    simp only [Slots.slice,Slots.value]
    rw [getElem?_cut ranges offset h]
  | .dictionary keys values => by
    simp only [Slots.slice,Slots.value]
    rw [getElem?_cut keys offset h]
  | .runs ends start _ values => by
    simp only [Slots.slice,Slots.value]
    rw [Nat.add_assoc]
  | .union members columns => by
    simp only [Slots.slice,Slots.value]
    rw [getElem?_cut members offset h]

theorem Columns.values_slice {fs : Fields} (c : Columns fs) (offset : Nat) {len i : Nat}
    (h : i < len) : (c.slice offset len).values i = c.values (offset+i) :=
  match c with
  | .nil => by simp only [Columns.slice,Columns.values]
  | .cons head tail => by
    simp only [Columns.slice,Columns.values]
    rw [head.value_slice offset h,tail.values_slice offset h]

end

theorem mem_of_mem_cut {α : Type} {xs : List α} {offset len : Nat} {x : α}
    (h : x ∈ cut xs offset len) : x ∈ xs :=
  List.mem_of_mem_drop (List.mem_of_mem_take h)

mutual

theorem Slots.valid_slice {t : DataType} {s : Slots t} (h : s.Valid) (offset len : Nat) :
    (s.slice offset len).Valid :=
  match s with
  | .null _ => by simp only [Slots.slice,Slots.Valid]
  | .scalar _ => by simp only [Slots.slice,Slots.Valid]
  | .list ranges child => by
    simp only [Slots.slice,Slots.Valid] at h ⊢
    exact ⟨fun r hr => h.1 r (mem_of_mem_cut hr),h.2⟩
  | @Slots.fixedSizeList _ size present child => by
    simp only [Slots.slice,Slots.Valid] at h ⊢
    refine ⟨?_,Slots.valid_slice h.2 _ _⟩
    rw [Slots.length_slice,h.1,length_cut,← Nat.sub_mul,Nat.mul_min_mul_right]
  | .struct present columns => by
    simp only [Slots.slice,Slots.Valid] at h ⊢
    rw [length_cut]
    exact ⟨columns.haveLength_slice _ offset len h.1,Columns.valid_slice h.2 offset len⟩
  | .map ranges child => by
    simp only [Slots.slice,Slots.Valid] at h ⊢
    exact ⟨fun r hr => h.1 r (mem_of_mem_cut hr),h.2⟩
  | .dictionary keys values => by
    simp only [Slots.slice,Slots.Valid] at h ⊢
    exact ⟨fun k hk => h.1 k (mem_of_mem_cut hk),h.2⟩
  | .runs ends start n values => by
    simp only [Slots.slice,Slots.Valid] at h ⊢
    refine ⟨⟨h.1.1,fun i hi => ?_⟩,h.2⟩
    rw [Nat.add_assoc]
    exact h.1.2 (offset+i) (by omega)
  | .union members columns => by
    simp only [Slots.slice,Slots.Valid] at h ⊢
    exact ⟨fun m hm => h.1 m (mem_of_mem_cut hm),h.2⟩

theorem Columns.valid_slice {fs : Fields} {c : Columns fs} (h : c.Valid) (offset len : Nat) :
    (c.slice offset len).Valid :=
  match c with
  | .nil => by simp only [Columns.slice,Columns.Valid]
  | .cons head tail => by
    simp only [Columns.slice,Columns.Valid] at h ⊢
    exact ⟨Slots.valid_slice h.1 offset len,Columns.valid_slice h.2 offset len⟩

end

/-! ### Concatenations -/

mutual

theorem Slots.eq_of_same {t : DataType} {a b : Slots t} (h : a.same b) : a = b :=
  match a,b with
  | .null _,.null _ => by
    simp only [Slots.same,beq_iff_eq] at h
    rw [h]
  | .scalar _,.scalar _ => by
    simp only [Slots.same,beq_iff_eq] at h
    rw [h]
  | .list _ _,.list _ _ => by
    simp only [Slots.same,Bool.and_eq_true,beq_iff_eq] at h
    rw [h.1,Slots.eq_of_same h.2]
  | .fixedSizeList _ _,.fixedSizeList _ _ => by
    simp only [Slots.same,Bool.and_eq_true,beq_iff_eq] at h
    rw [h.1,Slots.eq_of_same h.2]
  | .struct _ _,.struct _ _ => by
    simp only [Slots.same,Bool.and_eq_true,beq_iff_eq] at h
    rw [h.1,Columns.eq_of_same h.2]
  | .map _ _,.map _ _ => by
    simp only [Slots.same,Bool.and_eq_true,beq_iff_eq] at h
    rw [h.1,Slots.eq_of_same h.2]
  | .dictionary _ _,.dictionary _ _ => by
    simp only [Slots.same,Bool.and_eq_true,beq_iff_eq] at h
    rw [h.1,Slots.eq_of_same h.2]
  | .runs _ _ _ _,.runs _ _ _ _ => by
    simp only [Slots.same,Bool.and_eq_true,beq_iff_eq] at h
    rw [h.1.1.1,h.1.1.2,h.1.2,Slots.eq_of_same h.2]
  | .union _ _,.union _ _ => by
    simp only [Slots.same,Bool.and_eq_true,beq_iff_eq] at h
    rw [h.1,Columns.eq_of_same h.2]

theorem Columns.eq_of_same {fs : Fields} {a b : Columns fs} (h : a.same b) : a = b :=
  match a,b with
  | .nil,.nil => rfl
  | .cons _ _,.cons _ _ => by
    simp only [Columns.same,Bool.and_eq_true] at h
    rw [Slots.eq_of_same h.1,Columns.eq_of_same h.2]

end

section

variable {key value : DataType} {xs ys : List (Option Nat)} {values values' : Slots value}

theorem Slots.dictionary_followedBy_of_same (h : values.same values') :
    (Slots.dictionary xs values : Slots (.dictionary key value)).followedBy
      (.dictionary ys values') = .dictionary (xs++ys) values := by
  rw [Slots.followedBy,if_pos h]

theorem Slots.dictionary_followedBy_of_not_same (h : ¬ values.same values') :
    (Slots.dictionary xs values : Slots (.dictionary key value)).followedBy
      (.dictionary ys values') =
      .dictionary (xs++ys.map (Option.map (·+values.length))) (values.followedBy values') := by
  rw [Slots.followedBy,if_neg h]

end

/-- Up to the end of a window, its ends and later ones find the run of a position. -/
theorem runAt_windowEnds_left {ends later : List Nat} {offset n i : Nat} (h : i < n) :
    runAt (windowEnds ends offset n++later.map (·+n)) i = runAt ends (offset+i) := by
  have none : (later.map (·+n)).countP (· ≤ i) = 0 := by
    rw [List.countP_eq_zero]
    simp
    omega
  rw [runAt,List.countP_append,none,windowEnds,List.countP_map,runAt,Nat.add_zero]
  refine List.countP_congr fun e _ => ?_
  simp
  omega

theorem runAt_windowEnds {ends : List Nat} {offset n i : Nat} (h : i < n) :
    runAt (windowEnds ends offset n) i = runAt ends (offset+i) := by
  rw [← runAt_windowEnds_left h,List.map_nil,List.append_nil]

/-- Behind a window every one of its runs has ended. -/
theorem runAt_windowEnds_right {ends : List Nat} {offset n : Nat} (later : List Nat) (i : Nat) :
    runAt (windowEnds ends offset n++later.map (·+n)) (n+i) = ends.length+runAt later i := by
  have all : (windowEnds ends offset n).countP (· ≤ n+i) = ends.length := by
    have lengths : ends.length = (windowEnds ends offset n).length := by simp [windowEnds]
    rw [lengths,List.countP_eq_length]
    simp [windowEnds]
  rw [runAt,List.countP_append,all,List.countP_map,runAt]
  congr 1
  refine List.countP_congr fun e _ => ?_
  simp
  omega

theorem getElem?_shiftRanges {k : Nat} (ranges : List (Option (Nat × Nat))) (i : Nat) :
    (shiftRanges k ranges)[i]?.join = ranges[i]?.join.map fun r => (r.1+k,r.2) := by
  rw [shiftRanges,List.getElem?_map]
  cases ranges[i]? <;> rfl

theorem RangesWithin.le {ranges : List (Option (Nat × Nat))} {n i : Nat}
    (h : RangesWithin ranges n) {start len : Nat} (hr : ranges[i]?.join = some (start,len)) :
    start+len ≤ n := by
  have hr := Option.join_eq_some_iff.mp hr
  exact h _ (List.mem_of_getElem? hr) (start,len) rfl

mutual

/-- Up to the end of the first array, a concatenation holds what that array holds. -/
theorem Slots.value_followedBy_left {t : DataType} {a : Slots t} (b : Slots t) {i : Nat}
    (valid : a.Valid) (h : i < a.length) : (a.followedBy b).value i = a.value i :=
  match a,b with
  | .null _,.null _ => by simp only [Slots.followedBy,Slots.value]
  | .scalar xs,.scalar ys => by
    simp only [Slots.followedBy,Slots.value,Slots.length] at h ⊢
    rw [List.getElem?_append_left h]
  | .list xs child,.list ys child' => by
    simp only [Slots.length] at h
    simp only [Slots.followedBy,Slots.value,Slots.Valid] at valid ⊢
    rw [List.getElem?_append_left h]
    rcases hr : xs[i]?.join with _ | ⟨start,len⟩
    · rfl
    · refine congrArg Value.list (map_range'_shift (Nat.zero_add _).symm fun k _ hk => ?_)
      rw [Nat.zero_add]
      exact Slots.value_followedBy_left child' valid.2 (hk.trans_le (valid.1.le hr))
  | @Slots.fixedSizeList _ size xs child,.fixedSizeList ys child' => by
    simp only [Slots.length] at h
    simp only [Slots.followedBy,Slots.value,Slots.Valid] at valid ⊢
    rw [List.getElem?_append_left h]
    have items : (List.range' (i*size.toNat) size.toNat).map (child.followedBy child').value =
        (List.range' (i*size.toNat) size.toNat).map child.value := by
      refine map_range'_shift (Nat.zero_add _).symm fun k _ hk => ?_
      rw [Nat.zero_add]
      exact Slots.value_followedBy_left child' valid.2 (valid.1 ▸ item_lt h hk)
    rw [items]
  | .struct xs columns,.struct ys columns' => by
    simp only [Slots.length] at h
    simp only [Slots.followedBy,Slots.value,Slots.Valid] at valid ⊢
    rw [List.getElem?_append_left h,Columns.values_followedBy_left columns' valid.2 valid.1 h]
  | .map xs child,.map ys child' => by
    simp only [Slots.length] at h
    simp only [Slots.followedBy,Slots.value,Slots.Valid] at valid ⊢
    rw [List.getElem?_append_left h]
    rcases hr : xs[i]?.join with _ | ⟨start,len⟩
    · rfl
    · refine congrArg Value.list (map_range'_shift (Nat.zero_add _).symm fun k _ hk => ?_)
      rw [Nat.zero_add]
      exact Slots.entry_followedBy_left child' valid.2 (hk.trans_le (valid.1.le hr))
  | .dictionary xs values,.dictionary ys values' => by
    simp only [Slots.length] at h
    simp only [Slots.Valid] at valid
    by_cases same : values.same values'
    · rw [Slots.dictionary_followedBy_of_same same]
      simp only [Slots.value]
      rw [List.getElem?_append_left h]
    · rw [Slots.dictionary_followedBy_of_not_same same]
      simp only [Slots.value]
      rw [List.getElem?_append_left h]
      cases hk : xs[i]?.join with
      | none => rfl
      | some k =>
        have hk := List.mem_of_getElem? (Option.join_eq_some_iff.mp hk)
        exact Slots.value_followedBy_left values' valid.2 (valid.1 _ hk k rfl)
  | .runs xs o n values,.runs ys o' m values' => by
    simp only [Slots.length] at h
    simp only [Slots.followedBy,Slots.value,Slots.Valid] at valid ⊢
    rw [Nat.zero_add,runAt_windowEnds_left h]
    have := valid.1.2 i h
    exact Slots.value_followedBy_left values' valid.2 (by omega)
  | .union xs columns,.union ys columns' => by
    simp only [Slots.length] at h
    simp only [Slots.followedBy,Slots.value,Slots.Valid] at valid ⊢
    rw [List.getElem?_append_left h,List.getElem?_eq_getElem h]
    have := valid.1 _ (List.getElem_mem h)
    exact congrArg _ (Columns.choice_followedBy_left columns' valid.2 this)

theorem Slots.entry_followedBy_left {t : DataType} {a : Slots t} (b : Slots t) {i : Nat}
    (valid : a.Valid) (h : i < a.length) : (a.followedBy b).entry i = a.entry i :=
  match a,b with
  | .struct _ columns,.struct _ columns' => by
    simp only [Slots.length] at h
    simp only [Slots.followedBy,Slots.entry,Slots.Valid] at valid ⊢
    rw [Columns.values_followedBy_left columns' valid.2 valid.1 h]
  | .null _,.null _ => rfl
  | .scalar _,.scalar _ => rfl
  | .list _ _,.list _ _ => rfl
  | .fixedSizeList _ _,.fixedSizeList _ _ => rfl
  | .map _ _,.map _ _ => rfl
  | .dictionary _ values,.dictionary _ values' => by
    rw [Slots.followedBy]
    split <;> rfl
  | .runs _ _ _ _,.runs _ _ _ _ => rfl
  | .union _ _,.union _ _ => rfl

theorem Columns.values_followedBy_left {fs : Fields} {a : Columns fs} (b : Columns fs) {n i : Nat}
    (valid : a.Valid) (length : a.haveLength n) (h : i < n) : (a.followedBy b).values i = a.values i :=
  match a,b with
  | .nil,.nil => by simp only [Columns.followedBy,Columns.values]
  | .cons head tail,.cons head' tail' => by
    simp only [Columns.haveLength,Bool.and_eq_true,beq_iff_eq] at length
    simp only [Columns.followedBy,Columns.values,Columns.Valid] at valid ⊢
    rw [Slots.value_followedBy_left head' valid.1 (by omega),
      Columns.values_followedBy_left tail' valid.2 length.2 h]

theorem Columns.choice_followedBy_left {fs : Fields} {a : Columns fs} (b : Columns fs) {place i : Nat}
    (valid : a.Valid) (h : i < a.lengthAt place) : (a.followedBy b).choice place i = a.choice place i :=
  match a,b,place with
  | .nil,.nil,_ => by simp only [Columns.followedBy,Columns.choice]
  | .cons head _,.cons head' _,0 => by
    simp only [Columns.followedBy,Columns.choice,Columns.lengthAt,Columns.Valid] at valid h ⊢
    exact Slots.value_followedBy_left head' valid.1 h
  | .cons _ tail,.cons _ tail',place+1 => by
    simp only [Columns.followedBy,Columns.choice,Columns.lengthAt,Columns.Valid] at valid h ⊢
    exact Columns.choice_followedBy_left tail' valid.2 h

end

theorem Columns.lengthAt_followedBy {fs : Fields} (a b : Columns fs) (place : Nat) :
    (a.followedBy b).lengthAt place = a.lengthAt place+b.lengthAt place :=
  match a,b,place with
  | .nil,.nil,_ => by simp only [Columns.followedBy,Columns.lengthAt]
  | .cons head _,.cons head' _,0 => by
    simp only [Columns.followedBy,Columns.lengthAt]
    exact Slots.length_followedBy head head'
  | .cons _ tail,.cons _ tail',place+1 => by
    simp only [Columns.followedBy,Columns.lengthAt]
    exact Columns.lengthAt_followedBy tail tail' place

mutual

/-- Behind the first array a concatenation holds what the other array holds. -/
theorem Slots.value_followedBy_right {t : DataType} {a b : Slots t} {i : Nat} (validA : a.Valid)
    (validB : b.Valid) (h : i < b.length) : (a.followedBy b).value (a.length+i) = b.value i :=
  match a,b with
  | .null _,.null _ => by simp only [Slots.followedBy,Slots.value]
  | .scalar xs,.scalar ys => by
    simp only [Slots.followedBy,Slots.value,Slots.length]
    rw [getElem?_append_length_add]
  | .list xs child,.list ys child' => by
    simp only [Slots.length]
    simp only [Slots.followedBy,Slots.value,Slots.Valid] at validA validB ⊢
    rw [getElem?_append_length_add,getElem?_shiftRanges]
    rcases hr : ys[i]?.join with _ | ⟨start,len⟩
    · rfl
    · refine congrArg Value.list (map_range'_shift (Nat.add_comm _ _) fun k _ hk => ?_).symm
      exact (Slots.value_followedBy_right validA.2 validB.2 (hk.trans_le (validB.1.le hr))).symm
  | @Slots.fixedSizeList _ size xs child,.fixedSizeList ys child' => by
    simp only [Slots.length] at h ⊢
    simp only [Slots.followedBy,Slots.value,Slots.Valid] at validA validB ⊢
    rw [getElem?_append_length_add]
    have items : (List.range' (i*size.toNat) size.toNat).map child'.value =
        (List.range' ((xs.length+i)*size.toNat) size.toNat).map (child.followedBy child').value := by
      refine map_range'_shift (d := child.length) (by rw [validA.1,Nat.add_mul]) fun k _ hk => ?_
      exact (Slots.value_followedBy_right validA.2 validB.2 (validB.1 ▸ item_lt h hk)).symm
    rw [items]
  | .struct xs columns,.struct ys columns' => by
    simp only [Slots.length] at h ⊢
    simp only [Slots.followedBy,Slots.value,Slots.Valid] at validA validB ⊢
    rw [getElem?_append_length_add,Columns.values_followedBy_right validA.2 validB.2 validA.1 validB.1 h]
  | .map xs child,.map ys child' => by
    simp only [Slots.length]
    simp only [Slots.followedBy,Slots.value,Slots.Valid] at validA validB ⊢
    rw [getElem?_append_length_add,getElem?_shiftRanges]
    rcases hr : ys[i]?.join with _ | ⟨start,len⟩
    · rfl
    · refine congrArg Value.list (map_range'_shift (Nat.add_comm _ _) fun k _ hk => ?_).symm
      exact (Slots.entry_followedBy_right validA.2 validB.2 (hk.trans_le (validB.1.le hr))).symm
  | .dictionary xs values,.dictionary ys values' => by
    simp only [Slots.length]
    simp only [Slots.Valid] at validA validB
    by_cases same : values.same values'
    · rw [Slots.dictionary_followedBy_of_same same,Slots.eq_of_same same]
      simp only [Slots.value]
      rw [getElem?_append_length_add]
    · rw [Slots.dictionary_followedBy_of_not_same same]
      simp only [Slots.value]
      rw [getElem?_append_length_add,List.getElem?_map]
      rcases hk : ys[i]? with _ | _ | k
      · rfl
      · rfl
      · have := validB.1 _ (List.mem_of_getElem? hk) k rfl
        change (values.followedBy values').value (k+values.length) = values'.value k
        rw [Nat.add_comm]
        exact Slots.value_followedBy_right validA.2 validB.2 this
  | .runs xs o n values,.runs ys o' m values' => by
    simp only [Slots.length] at h ⊢
    simp only [Slots.followedBy,Slots.value,Slots.Valid] at validA validB ⊢
    have := validB.1.2 i h
    rw [Nat.zero_add,runAt_windowEnds_right,runAt_windowEnds h,validA.1.1]
    exact Slots.value_followedBy_right validA.2 validB.2 (by omega)
  | .union xs columns,.union ys columns' => by
    simp only [Slots.length] at h ⊢
    simp only [Slots.followedBy,Slots.value,Slots.Valid] at validA validB ⊢
    rw [getElem?_append_length_add,List.getElem?_map,List.getElem?_eq_getElem h]
    have := validB.1 _ (List.getElem_mem h)
    simp only [Option.map_some]
    rw [Nat.add_comm,Columns.choice_followedBy_right validA.2 validB.2 this]

theorem Slots.entry_followedBy_right {t : DataType} {a b : Slots t} {i : Nat} (validA : a.Valid)
    (validB : b.Valid) (h : i < b.length) : (a.followedBy b).entry (a.length+i) = b.entry i :=
  match a,b with
  | .struct _ columns,.struct _ columns' => by
    simp only [Slots.length] at h ⊢
    simp only [Slots.followedBy,Slots.entry,Slots.Valid] at validA validB ⊢
    rw [Columns.values_followedBy_right validA.2 validB.2 validA.1 validB.1 h]
  | .null _,.null _ => rfl
  | .scalar _,.scalar _ => rfl
  | .list _ _,.list _ _ => rfl
  | .fixedSizeList _ _,.fixedSizeList _ _ => rfl
  | .map _ _,.map _ _ => rfl
  | .dictionary _ values,.dictionary _ values' => by
    rw [Slots.followedBy]
    split <;> rfl
  | .runs _ _ _ _,.runs _ _ _ _ => rfl
  | .union _ _,.union _ _ => rfl

theorem Columns.values_followedBy_right {fs : Fields} {a b : Columns fs} {n m i : Nat}
    (validA : a.Valid) (validB : b.Valid) (lengthA : a.haveLength n) (lengthB : b.haveLength m)
    (h : i < m) : (a.followedBy b).values (n+i) = b.values i :=
  match a,b with
  | .nil,.nil => by simp only [Columns.followedBy,Columns.values]
  | .cons head tail,.cons head' tail' => by
    simp only [Columns.haveLength,Bool.and_eq_true,beq_iff_eq] at lengthA lengthB
    simp only [Columns.followedBy,Columns.values,Columns.Valid] at validA validB ⊢
    have first := Slots.value_followedBy_right validA.1 validB.1 (i := i) (by omega)
    rw [lengthA.1] at first
    rw [first,Columns.values_followedBy_right validA.2 validB.2 lengthA.2 lengthB.2 h]

theorem Columns.choice_followedBy_right {fs : Fields} {a b : Columns fs} {place i : Nat}
    (validA : a.Valid) (validB : b.Valid) (h : i < b.lengthAt place) :
    (a.followedBy b).choice place (a.lengthAt place+i) = b.choice place i :=
  match a,b,place with
  | .nil,.nil,_ => by simp only [Columns.followedBy,Columns.choice]
  | .cons _ _,.cons _ _,0 => by
    simp only [Columns.followedBy,Columns.choice,Columns.lengthAt,Columns.Valid] at validA validB h ⊢
    exact Slots.value_followedBy_right validA.1 validB.1 h
  | .cons _ _,.cons _ _,place+1 => by
    simp only [Columns.followedBy,Columns.choice,Columns.lengthAt,Columns.Valid] at validA validB h ⊢
    exact Columns.choice_followedBy_right validA.2 validB.2 h

end

theorem RangesWithin.append {xs ys : List (Option (Nat × Nat))} {n m : Nat}
    (hx : RangesWithin xs n) (hy : RangesWithin ys m) :
    RangesWithin (xs++shiftRanges n ys) (n+m) := by
  intro r hr x hx'
  rcases List.mem_append.mp hr with hr | hr
  · have := hx r hr x hx'
    omega
  · obtain ⟨s,hs,rfl⟩ := List.mem_map.mp hr
    obtain ⟨y,hy',rfl⟩ := Option.map_eq_some_iff.mp hx'
    have := hy s hs y hy'
    simp only
    omega

mutual

theorem Slots.valid_followedBy {t : DataType} {a b : Slots t} (ha : a.Valid) (hb : b.Valid) :
    (a.followedBy b).Valid :=
  match a,b with
  | .null _,.null _ => by simp only [Slots.followedBy,Slots.Valid]
  | .scalar _,.scalar _ => by simp only [Slots.followedBy,Slots.Valid]
  | .list xs child,.list ys child' => by
    simp only [Slots.followedBy,Slots.Valid] at ha hb ⊢
    rw [Slots.length_followedBy]
    exact ⟨ha.1.append hb.1,Slots.valid_followedBy ha.2 hb.2⟩
  | .fixedSizeList xs child,.fixedSizeList ys child' => by
    simp only [Slots.followedBy,Slots.Valid] at ha hb ⊢
    rw [Slots.length_followedBy,ha.1,hb.1,List.length_append,Nat.add_mul]
    exact ⟨rfl,Slots.valid_followedBy ha.2 hb.2⟩
  | .struct xs columns,.struct ys columns' => by
    simp only [Slots.followedBy,Slots.Valid] at ha hb ⊢
    rw [List.length_append]
    exact ⟨columns.haveLength_followedBy columns' _ _ ha.1 hb.1,Columns.valid_followedBy ha.2 hb.2⟩
  | .map xs child,.map ys child' => by
    simp only [Slots.followedBy,Slots.Valid] at ha hb ⊢
    rw [Slots.length_followedBy]
    exact ⟨ha.1.append hb.1,Slots.valid_followedBy ha.2 hb.2⟩
  | .dictionary xs values,.dictionary ys values' => by
    simp only [Slots.Valid] at ha hb
    by_cases same : values.same values'
    · rw [Slots.dictionary_followedBy_of_same same]
      simp only [Slots.Valid]
      rw [← Slots.eq_of_same same] at hb
      exact ⟨List.forall_mem_append.mpr ⟨ha.1,hb.1⟩,ha.2⟩
    · rw [Slots.dictionary_followedBy_of_not_same same]
      simp only [Slots.Valid]
      rw [Slots.length_followedBy]
      refine ⟨fun k hk i hi => ?_,Slots.valid_followedBy ha.2 hb.2⟩
      rcases List.mem_append.mp hk with hk | hk
      · have := ha.1 k hk i hi
        omega
      · obtain ⟨k',hk',rfl⟩ := List.mem_map.mp hk
        obtain ⟨j,hj,rfl⟩ := Option.map_eq_some_iff.mp hi
        have := hb.1 k' hk' j hj
        omega
  | .runs xs o n values,.runs ys o' m values' => by
    simp only [Slots.followedBy,Slots.Valid] at ha hb ⊢
    have lengths : (windowEnds xs o n++(windowEnds ys o' m).map (·+n)).length =
        xs.length+ys.length := by
      simp [windowEnds]
    rw [Slots.length_followedBy,lengths,ha.1.1,hb.1.1]
    refine ⟨⟨rfl,fun i hi => ?_⟩,Slots.valid_followedBy ha.2 hb.2⟩
    rw [Nat.zero_add]
    rcases Nat.lt_or_ge i n with first | second
    · have := ha.1.2 i first
      rw [runAt_windowEnds_left first]
      omega
    · obtain ⟨j,rfl⟩ := Nat.exists_eq_add_of_le second
      have hj : j < m := by omega
      have := hb.1.2 j hj
      rw [runAt_windowEnds_right,runAt_windowEnds hj]
      omega
  | .union xs columns,.union ys columns' => by
    simp only [Slots.followedBy,Slots.Valid] at ha hb ⊢
    refine ⟨fun k hk => ?_,Columns.valid_followedBy ha.2 hb.2⟩
    rw [Columns.lengthAt_followedBy]
    rcases List.mem_append.mp hk with hk | hk
    · have := ha.1 k hk
      omega
    · obtain ⟨k',hk',rfl⟩ := List.mem_map.mp hk
      have := hb.1 k' hk'
      simp only
      omega

theorem Columns.valid_followedBy {fs : Fields} {a b : Columns fs} (ha : a.Valid) (hb : b.Valid) :
    (a.followedBy b).Valid :=
  match a,b with
  | .nil,.nil => by simp only [Columns.followedBy,Columns.Valid]
  | .cons _ _,.cons _ _ => by
    simp only [Columns.followedBy,Columns.Valid] at ha hb ⊢
    exact ⟨Slots.valid_followedBy ha.1 hb.1,Columns.valid_followedBy ha.2 hb.2⟩

end

mutual

theorem Slots.valid_empty : (t : DataType) → (Slots.empty t).Valid
  | .null => by simp only [Slots.empty,Slots.Valid]
  | .scalar _ => by simp only [Slots.empty,Slots.Valid]
  | .list _ (.mk _ t _) => by
    simp only [Slots.empty,Slots.Valid]
    exact ⟨by simp [RangesWithin],Slots.valid_empty t⟩
  | .fixedSizeList (.mk _ t _) _ => by
    simp only [Slots.empty,Slots.Valid]
    exact ⟨(Slots.length_empty t).trans (Nat.zero_mul _).symm,Slots.valid_empty t⟩
  | .struct fields => by
    simp only [Slots.empty,Slots.Valid]
    exact ⟨Columns.haveLength_empty fields,Columns.valid_empty fields⟩
  | .map (.mk _ t _) _ => by
    simp only [Slots.empty,Slots.Valid]
    exact ⟨by simp [RangesWithin],Slots.valid_empty t⟩
  | .dictionary _ value => by
    simp only [Slots.empty,Slots.Valid]
    exact ⟨by simp,Slots.valid_empty value⟩
  | .runEndEncoded _ (.mk _ t _) => by
    simp only [Slots.empty,Slots.Valid]
    exact ⟨⟨(Slots.length_empty t).symm,by simp⟩,Slots.valid_empty t⟩
  | .union _ _ fields => by
    simp only [Slots.empty,Slots.Valid]
    exact ⟨by simp,Columns.valid_empty fields⟩

theorem Columns.valid_empty : (fs : Fields) → (Columns.empty fs).Valid
  | .nil => by simp only [Columns.empty,Columns.Valid]
  | .cons (.mk _ t _) rest => by
    simp only [Columns.empty,Columns.Valid]
    exact ⟨Slots.valid_empty t,Columns.valid_empty rest⟩

end

end Arrow
end ColumnarReport
