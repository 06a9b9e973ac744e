import Mathlib
import ColumnarReport.Proofs.NumericExtremes
import ColumnarReport.Proofs.UniqueCount
import ColumnarReport.Proofs.Widening

/-! Numbers of arrays keep their value as cells: integers as the same integer and floats as the same
float, single ones as the double of the same real value. So a column of single floats is ordered as it
is stored, and its statistics are those of the stored floats. -/
namespace ColumnarReport
namespace Arrow

open NumericStatistics

/-- Integers, and floats that are kept as numbers. -/
def ScalarType.IsNumber : ScalarType → Prop
  | .integer _ => True
  | .float .single => True
  | .float .double => True
  | _ => False

/-- A cell holds the number of a slot, or nothing where the slot is null. -/
inductive Holds : (t : ScalarType) → Option t.Carrier → Cell → Prop
  | null (t : ScalarType) : Holds t none .null
  | int {t : IntegerType} (h : t ≠ .uint64) {v : FixedInt t.signed t.bits} {w : Int64}
      (same : w.toInt = v.val) : Holds (.integer t) (some v) (.int w)
  | uint {v : FixedInt false 64} {w : UInt64} (same : w.toNat = v.val) :
      Holds (.integer .uint64) (some v) (.uint w)
  | double (v : Double) : Holds (.float .double) (some v) (.float v)
  | single {v : Single} {w : Double} (same : v.Same w) : Holds (.float .single) (some v) (.float w)

/-- Every integer of up to 64 bits but the unsigned ones of 64 bits is a signed one of 64 bits. -/
theorem toInt_ofInt_val {t : IntegerType} (h : t ≠ .uint64) (v : FixedInt t.signed t.bits) :
    (Int64.ofInt v.val).toInt = v.val := by
  have above := v.above
  have below := v.below
  apply Int64.toInt_ofInt_of_le
  · cases t <;> simp_all [IntegerType.signed,IntegerType.bits] <;> omega
  · cases t <;> simp_all [IntegerType.signed,IntegerType.bits] <;> omega

theorem toNat_ofNat_val (v : FixedInt false 64) : ((UInt64.ofNat v.val.toNat).toNat : Int) = v.val := by
  have above := v.above
  have below := v.below
  simp at above below
  rw [UInt64.toNat_ofNat']
  omega

theorem direct_of_integer {t : IntegerType} (h : t ≠ .uint64) :
    direct? (.integer t) = some fun v => .int (.ofInt v.val) := by
  cases t <;> first | rfl | exact (h rfl).elim

theorem holds_direct {t : ScalarType} (number : t.IsNumber) :
    ∃ f, direct? t = some f ∧ ∀ v, Holds t (some v) (f v) := by
  cases t with
  | integer t =>
    by_cases unsigned : t = .uint64
    · subst unsigned
      exact ⟨_,rfl,fun v => .uint (toNat_ofNat_val v)⟩
    · exact ⟨_,direct_of_integer unsigned,fun v => .int unsigned (toInt_ofInt_val unsigned v)⟩
  | float t =>
    cases t with
    | single => exact ⟨_,rfl,fun v => .single (Binary.same_convert BinaryFormat.single_widens_double v)⟩
    | double => exact ⟨_,rfl,fun v => .double v⟩
    | half => exact number.elim
  | _ => exact number.elim

theorem exists_holds [ZoneDatabase] {t : ScalarType} (number : t.IsNumber) (values : List (Option t.Carrier)) :
    ∃ cs, cells (.scalar values) = .ok cs ∧ List.Forall₂ (Holds t) values cs := by
  obtain ⟨f,direct,holds⟩ := holds_direct number
  refine ⟨_,cells_scalar direct,List.forall₂_map_right_iff.mpr (List.forall₂_same.mpr ?_)⟩
  rintro (_ | v) -
  · exact .null t
  · exact holds v

/-! ### Columns of single floats -/

/-- The double of a single float, as a cell. -/
def widened (x : Single) : Cell := .float (x.convert .double)

def widenedCells (values : List (Option Single)) : List Cell :=
  values.map fun v => (v.map widened).getD .null

variable {values : List (Option Single)} {x y : Single}

theorem same_widened (x : Single) : x.Same (x.convert .double) :=
  Binary.same_convert BinaryFormat.single_widens_double x

theorem holds_widened (x : Single) : Holds (.float .single) (some x) (widened x) :=
  .single (same_widened x)

theorem cells_singles [ZoneDatabase] (values : List (Option Single)) :
    cells (.scalar (t := .float .single) values) = .ok (widenedCells values) := rfl

theorem numbers_widenedCells (values : List (Option Single)) :
    numbers (widenedCells values) = values.reduceOption.map widened :=
  numbers_cells (t := .float .single) (fun _ => rfl) values

theorem present_widenedCells (values : List (Option Single)) :
    ColumnSummary.present (widenedCells values) = values.reduceOption.map widened := by
  rw [← numbers_widenedCells]
  refine List.filter_congr fun c hc => ?_
  obtain ⟨v,-,rfl⟩ := List.mem_map.mp hc
  cases v <;> rfl

/-- The first number is not behind the second one in the total order. Not-a-numbers count as one. -/
def NotBehind (x y : Single) : Prop := x.totalCompare y ≠ .gt ∨ x.isNaN ∧ y.isNaN

theorem notBehind_of_rank_le (h : (widened x).rank ≤ (widened y).rank) : NotBehind x y := by
  by_cases nan : x.isNaN ∧ y.isNaN
  · exact .inr nan
  · left
    rw [← (same_widened x).totalCompare (same_widened y) nan,Binary.totalCompare,ne_eq,
      compare_gt_iff_gt,not_lt]
    exact h

/-- The ends of the range of a column are the first and the last of the stored numbers. -/
theorem ofCells_widenedCells {n : NumericStatistics} (h : ofCells (widenedCells values) = some n) :
    ∃ low ∈ values.reduceOption, ∃ high ∈ values.reduceOption,
      Holds (.float .single) (some low) n.least ∧ Holds (.float .single) (some high) n.greatest ∧
      ∀ x ∈ values.reduceOption, NotBehind low x ∧ NotBehind x high := by
  have stored := numbers_widenedCells values
  cases hv : values.reduceOption with
  | nil =>
    rw [hv] at stored
    simp [ofCells_eq_none_iff.mpr stored] at h
  | cons first rest =>
    rw [hv,List.map_cons] at stored
    obtain rfl := Option.some.inj ((ofCells_of_numbers stored).symm.trans h)
    have least := (ends_mem (widened first) (rest.map widened)).1
    have greatest := (ends_mem (widened first) (rest.map widened)).2
    have lower := leastOf_ne_gt (widened first) (rest.map widened)
    have upper := (tops_greatestOf (widened first) (rest.map widened)).rank
    rw [← List.map_cons] at least greatest lower upper
    obtain ⟨low,hlow,least⟩ := List.mem_map.mp least
    obtain ⟨high,hhigh,greatest⟩ := List.mem_map.mp greatest
    refine ⟨low,hlow,high,hhigh,least ▸ holds_widened low,greatest ▸ holds_widened high,fun x hx => ?_⟩
    have member : widened x ∈ (first :: rest).map widened := List.mem_map_of_mem hx
    rw [← least] at lower
    rw [← greatest] at upper
    exact ⟨notBehind_of_rank_le (Cell.rank_le_of_ne_gt (lower _ member)),
      notBehind_of_rank_le (upper _ member)⟩

def merged (x : Single) : Single := if x.isNaN then .nan else x

theorem merged_eq_iff : merged x = merged y ↔ x = y ∨ x.isNaN ∧ y.isNaN :=
  Binary.merge_eq_iff (by decide)

theorem alike_widened_iff : (widened x).Alike (widened y) ↔ x = y ∨ x.isNaN ∧ y.isNaN := by
  have sameX := same_widened x
  have sameY := same_widened y
  by_cases nan : x.isNaN ∧ y.isNaN
  · exact iff_of_true (.nan (sameX.isNaN ▸ nan.1) (sameY.isNaN ▸ nan.2)) (.inr nan)
  · rw [← sameX.eq_iff sameY nan]
    constructor
    · intro h
      unfold widened at h
      generalize hx' : x.convert .double = x', hy' : y.convert .double = y' at *
      cases h with
      | refl => exact .inl rfl
      | nan hx hy => exact (nan ⟨sameX.isNaN.trans hx,sameY.isNaN.trans hy⟩).elim
    · rintro (same | both)
      · rw [widened,same]
        exact .refl _
      · exact (nan both).elim

/-- Texts are counted as the stored numbers are. -/
theorem uniqueCount_widenedCells (values : List (Option Single)) :
    ColumnSummary.uniqueCount (widenedCells values) =
      (values.reduceOption.map merged).toFinset.card := by
  rw [ColumnSummary.uniqueCount_eq,present_widenedCells,List.map_map]
  · refine card_toFinset_map_congr fun x _ y _ => ?_
    rw [merged_eq_iff,← alike_widened_iff,Cell.alike_iff]
    rfl
  · rw [present_widenedCells]
    simp only [List.forall_mem_map]
    exact fun x _ y _ => rfl

/-- Statistics of a column are those of the stored numbers. -/
structure StoredStatistics (values : List (Option Single)) (d : CellDetails) : Prop where
  unique : d.uniqueCount = (values.reduceOption.map merged).toFinset.card
  absent : d.numeric = none ↔ values.reduceOption = []
  ends : ∀ n, d.numeric = some n →
    ∃ low ∈ values.reduceOption, ∃ high ∈ values.reduceOption,
      Holds (.float .single) (some low) n.least ∧ Holds (.float .single) (some high) n.greatest ∧
      ∀ x ∈ values.reduceOption, NotBehind low x ∧ NotBehind x high

theorem storedStatistics_widenedCells (index : Nat) (name : String) (filled : values ≠ []) :
    ∃ d, (ColumnSummary.ofColumn index ⟨name,"float",widenedCells values⟩).details = some d ∧
      StoredStatistics values d := by
  refine ⟨_,if_neg (by simpa [widenedCells] using filled),uniqueCount_widenedCells values,?_,?_⟩
  · change ofCells (widenedCells values) = none ↔ _
    rw [ofCells_eq_none_iff,numbers_widenedCells,List.map_eq_nil_iff]
  · exact fun n h => ofCells_widenedCells h

/-- Every slot of an array of numbers is decoded to a cell that holds its number. Doubles that hold single
floats compare as those do, so the statistics of a column of single floats are those of the stored
ones. -/
theorem cells_hold_numbers [ZoneDatabase] :
    (∀ (t : ScalarType) (values : List (Option t.Carrier)), t.IsNumber →
      ∃ cs, cells (.scalar values) = .ok cs ∧ List.Forall₂ (Holds t) values cs) ∧
    (∀ (x y : Single) (x' y' : Double), Holds (.float .single) (some x) (.float x') →
      Holds (.float .single) (some y) (.float y') → ¬ (x.isNaN ∧ y.isNaN) →
      x'.totalCompare y' = x.totalCompare y ∧ (x' = y' ↔ x = y)) ∧
    ∀ (values : List (Option Single)) (cs : List Cell) (index : Nat) (name : String), values ≠ [] →
      cells (.scalar (t := .float .single) values) = .ok cs →
      ∃ d, (ColumnSummary.ofColumn index ⟨name,DataType.reportName (.scalar (.float .single)),cs⟩).details =
        some d ∧ StoredStatistics values d := by
  refine ⟨fun t values number => exists_holds number values,?_,?_⟩
  · intro x y x' y' hx hy number
    cases hx with
    | single sameX =>
      cases hy with
      | single sameY => exact ⟨sameX.totalCompare sameY number,sameX.eq_iff sameY number⟩
  · intro values cs index name filled decoded
    obtain rfl := Except.ok.inj ((cells_singles values).symm.trans decoded)
    exact storedStatistics_widenedCells index name filled

attribute [local instance] ZoneDatabase.universal

/-- The negative number next to zero, the two zeros and an infinity keep their places beside a null. -/
theorem cells_hold_numbers_of_zeros :
    let least : Single := ⟨true,⟨1,by decide⟩⟩
    let values : List (Option Single) :=
      [some (.zero false),none,some least,some (.infinite false),some (.zero true)]
    ∃ cs, cells (.scalar (t := .float .single) values) = .ok cs ∧
      List.Forall₂ (Holds (.float .single)) values cs ∧
      ((Binary.zero true : Double).totalCompare (.zero false) = .lt) ∧
      ∃ d, (ColumnSummary.ofColumn 0 ⟨"x","float",cs⟩).details = some d ∧ d.uniqueCount = 4 := by
  intro least values
  obtain ⟨cs,decoded,holds⟩ := cells_hold_numbers.1 (.float .single) values trivial
  have zero : ∀ sign, (Binary.zero sign : Single).convert .double = .zero sign := by decide +kernel
  have order := (cells_hold_numbers.2.1 (.zero true) (.zero false) (.zero true) (.zero false)
    (.single (zero true ▸ same_widened _)) (.single (zero false ▸ same_widened _)) (by decide)).1
  obtain ⟨d,details,statistics⟩ := cells_hold_numbers.2.2 values cs 0 "x" (by decide) decoded
  refine ⟨cs,decoded,holds,order.trans (by decide),d,details,statistics.unique.trans ?_⟩
  decide +kernel

end Arrow
end ColumnarReport
