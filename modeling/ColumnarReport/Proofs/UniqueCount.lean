import ColumnarReport.Column
import ColumnarReport.Proofs.FloatText

/-! The number of different texts of a column whose cells are of one variant is the number of its
different cells, where all not-a-numbers are one. Texts of different variants may meet, as those of
a truth value and a string do, but cells that are absent are left out before texts are compared. -/
namespace ColumnarReport

section

variable {α β γ : Type} [DecidableEq β] [DecidableEq γ]

theorem nodup_eraseDups (xs : List β) : xs.eraseDups.Nodup := by
  cases xs with
  | nil => exact .nil
  | cons x xs =>
    rw [List.eraseDups_cons,List.nodup_cons]
    exact ⟨by simp [List.mem_eraseDups],nodup_eraseDups _⟩
termination_by xs.length
decreasing_by exact Nat.lt_succ_of_le (List.length_filter_le ..)

theorem length_eraseDups (xs : List β) : xs.eraseDups.length = xs.toFinset.card := by
  have same : xs.eraseDups.toFinset = xs.toFinset := by
    ext x
    rw [List.mem_toFinset,List.mem_toFinset,List.mem_eraseDups]
  rw [← same,List.toFinset_card_of_nodup (nodup_eraseDups xs)]

theorem card_toFinset_map_congr {f : α → β} {g : α → γ} {xs : List α}
    (h : ∀ a ∈ xs, ∀ b ∈ xs, f a = f b ↔ g a = g b) :
    (xs.map f).toFinset.card = (xs.map g).toFinset.card := by
  induction xs with
  | nil => rfl
  | cons a xs ih =>
    have rest := ih fun b hb c hc => h b (List.mem_cons_of_mem a hb) c (List.mem_cons_of_mem a hc)
    have old : f a ∈ (xs.map f).toFinset ↔ g a ∈ (xs.map g).toFinset := by
      simp only [List.mem_toFinset,List.mem_map]
      exact exists_congr fun b => and_congr_right fun hb =>
        h b (List.mem_cons_of_mem a hb) a List.mem_cons_self
    rw [List.map_cons,List.map_cons,List.toFinset_cons,List.toFinset_cons]
    by_cases seen : f a ∈ (xs.map f).toFinset
    · rw [Finset.insert_eq_of_mem seen,Finset.insert_eq_of_mem (old.mp seen),rest]
    · rw [Finset.card_insert_of_notMem seen,Finset.card_insert_of_notMem (mt old.mpr seen),rest]

theorem card_toFinset_eq_length_iff (xs : List β) : xs.toFinset.card = xs.length ↔ xs.Nodup := by
  have counts := Multiset.toFinset_card_eq_card_iff_nodup (m := (xs : Multiset β))
  rwa [Multiset.coe_card,Multiset.coe_nodup] at counts

end

theorem Binary.merge_eq_iff {f : BinaryFormat} (nan : (Binary.nan : Binary f).isNaN) {x y : Binary f} :
    ((if x.isNaN then .nan else x) = if y.isNaN then .nan else y) ↔ x = y ∨ x.isNaN ∧ y.isNaN := by
  constructor
  · intro h
    by_cases hx : x.isNaN <;> by_cases hy : y.isNaN
    · exact .inr ⟨hx,hy⟩
    · rw [if_pos hx,if_neg hy] at h
      exact (hy (h ▸ nan)).elim
    · rw [if_neg hx,if_pos hy] at h
      exact (hx (h ▸ nan)).elim
    · rw [if_neg hx,if_neg hy] at h
      exact .inl h
  · rintro (rfl | ⟨hx,hy⟩)
    · rfl
    · rw [if_pos hx,if_pos hy]

namespace Cell

inductive Variant
  | null
  | bool
  | int
  | uint
  | float
  | text
  | other
  deriving DecidableEq

def variant : Cell → Variant
  | null => .null
  | bool _ => .bool
  | int _ => .int
  | uint _ => .uint
  | float _ => .float
  | text _ => .text
  | other _ => .other

/-- Equal cells, and any two floats that are not-a-numbers. -/
inductive Alike : Cell → Cell → Prop
  | refl (c : Cell) : Alike c c
  | nan {x y : Double} (hx : x.isNaN) (hy : y.isNaN) : Alike (float x) (float y)

def merged : Cell → Cell
  | float x => float (if x.isNaN then .nan else x)
  | c => c

variable {a b : Cell}

theorem isNaN_nan : (Binary.nan : Double).isNaN := by decide

theorem alike_iff : a.Alike b ↔ a.merged = b.merged := by
  constructor
  · rintro (_ | ⟨hx,hy⟩)
    · rfl
    · rw [merged,merged,if_pos hx,if_pos hy]
  · intro h
    cases a with
    | float x =>
      cases b with
      | float y =>
        rcases (Binary.merge_eq_iff isNaN_nan).mp (Cell.float.inj h) with rfl | ⟨hx,hy⟩
        · exact .refl _
        · exact .nan hx hy
      | null | bool | int | uint | text | other => cases h
    | null | bool | int | uint | text | other =>
      cases b <;> cases h
      exact .refl _

theorem toString_inj {i j : Int} (h : toString i = toString j) : i = j := by
  have read := DecimalText.integer?_toString i
  rw [h,DecimalText.integer?_toString] at read
  exact (Option.some.inj read).symm

/-- The text of a cell determines it among those of its variant, not-a-numbers apart. -/
theorem shown_eq_iff (same : a.variant = b.variant) : a.shown = b.shown ↔ a.Alike b := by
  constructor
  · intro h
    cases a with
    | null =>
      cases b <;> cases same
      exact .refl _
    | bool v =>
      cases b <;> cases same
      next w =>
        cases v <;> cases w
        · exact .refl _
        · exact absurd h (by decide)
        · exact absurd h (by decide)
        · exact .refl _
    | int v =>
      cases b <;> cases same
      next w =>
        change toString v.toInt = toString w.toInt at h
        exact Int64.toInt_inj.mp (toString_inj h) ▸ .refl _
    | uint v =>
      cases b <;> cases same
      next w =>
        change toString (v.toNat : Int) = toString (w.toNat : Int) at h
        exact UInt64.toNat_inj.mp (Int.ofNat.inj (toString_inj h)) ▸ .refl _
    | float x =>
      cases b <;> cases same
      next y =>
        rcases floatStyle.write_eq_iff.mp h with rfl | ⟨hx,hy⟩
        · exact .refl _
        · exact .nan hx hy
    | text v =>
      cases b <;> cases same
      next w => exact (show v = w from h) ▸ .refl _
    | other v =>
      cases b <;> cases same
      next w => exact (show v = w from h) ▸ .refl _
  · rintro (_ | ⟨hx,hy⟩)
    · rfl
    · exact floatStyle.write_eq_iff.mpr (.inr ⟨hx,hy⟩)

end Cell

namespace ColumnSummary

def present (cells : List Cell) : List Cell := cells.filter (!·.isNull)

variable {cells : List Cell}

theorem uniqueCount_eq (uniform : ∀ a ∈ present cells, ∀ b ∈ present cells, a.variant = b.variant) :
    uniqueCount cells = ((present cells).map Cell.merged).toFinset.card := by
  rw [uniqueCount,length_eraseDups]
  exact card_toFinset_map_congr fun a ha b hb =>
    (Cell.shown_eq_iff (uniform a ha b hb)).trans Cell.alike_iff

theorem length_present (c : Column) : (present c.cells).length+c.nullCount = c.cells.length := by
  have counts := List.length_eq_countP_add_countP Cell.isNull (l := c.cells)
  rw [present,← List.countP_eq_length_filter,Column.nullCount,counts,Nat.add_comm]
  simp

theorem nodup_merged_iff : (cells.map Cell.merged).Nodup ↔ cells.Pairwise fun a b => ¬ a.Alike b := by
  simp only [Cell.alike_iff]
  exact List.pairwise_map

theorem present_eq_nil_iff : present cells = [] ↔ ∀ cell ∈ cells, cell = .null := by
  rw [present,List.filter_eq_nil_iff]
  refine forall₂_congr fun cell _ => ?_
  cases cell <;> simp [Cell.isNull]

/-- The count of different texts is the number of different cells that are not absent. With the
absent ones it makes up the length of the column just where no two of the others are alike. -/
theorem ofColumn_uniqueCount (index : Nat) {c : Column} (nonempty : c.cells ≠ [])
    (uniform : ∀ a ∈ present c.cells, ∀ b ∈ present c.cells, a.variant = b.variant) :
    ∃ d, (ofColumn index c).details = some d ∧
      d.uniqueCount = ((present c.cells).map Cell.merged).toFinset.card ∧
      d.uniqueCount+(ofColumn index c).nullCount ≤ (ofColumn index c).length ∧
      (d.uniqueCount+(ofColumn index c).nullCount = (ofColumn index c).length ↔
        (present c.cells).Pairwise fun a b => ¬ a.Alike b) ∧
      (d.uniqueCount = 0 ↔ ∀ cell ∈ c.cells, cell = .null) := by
  have count := uniqueCount_eq uniform
  have length := length_present c
  have most := ((present c.cells).map Cell.merged).toFinset_card_le
  have all := card_toFinset_eq_length_iff ((present c.cells).map Cell.merged)
  rw [List.length_map] at most all
  refine ⟨_,if_neg (by simpa using nonempty),count,?_,?_,?_⟩
  · change uniqueCount c.cells+c.nullCount ≤ c.cells.length
    omega
  · change uniqueCount c.cells+c.nullCount = c.cells.length ↔ _
    rw [← nodup_merged_iff,← all]
    omega
  · change uniqueCount c.cells = 0 ↔ _
    rw [count,Finset.card_eq_zero,List.toFinset_eq_empty_iff,List.map_eq_nil_iff,present_eq_nil_iff]

/-- The two zeros count twice and the not-a-numbers once, beside an absent cell. -/
theorem ofColumn_uniqueCount_of_floats :
    let nan : Double := ⟨true,⟨2^63-1,by decide⟩⟩
    let c : Column :=
      ⟨"x","double",[.float (.zero false),.null,.float nan,.float (.zero true),.float .nan]⟩
    c.cells ≠ [] ∧ (∀ a ∈ present c.cells, ∀ b ∈ present c.cells, a.variant = b.variant) ∧
      ∃ d, (ofColumn 0 c).details = some d ∧
        d.uniqueCount = ((present c.cells).map Cell.merged).toFinset.card ∧
        ((present c.cells).map Cell.merged).toFinset.card = 3 := by
  intro nan c
  have nonempty : c.cells ≠ [] := by decide
  have uniform : ∀ a ∈ present c.cells, ∀ b ∈ present c.cells, a.variant = b.variant := by
    decide
  obtain ⟨d,details,count,-⟩ := ofColumn_uniqueCount 0 nonempty uniform
  exact ⟨nonempty,uniform,d,details,count,by decide +kernel⟩

end ColumnSummary
end ColumnarReport
