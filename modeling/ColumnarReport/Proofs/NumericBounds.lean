import Mathlib
import ColumnarReport.Proofs.NumericColumns
import ColumnarReport.Proofs.Rounding

/-! How far the least and the greatest cell of a list bound its numbers. Integers compare exactly and
beside a float as floats, so two integers may both equal a float without being equal. The least
cell is kept among equals and bounds every number; the greatest one is replaced among equals, and
behind a float that equals both it may be an integer below an earlier one. -/
namespace ColumnarReport

namespace Cell

variable {a b c : Cell}

/-- The place of a number among the floats, where integers are rounded. -/
def rank (c : Cell) : Int := (c.number?.getD .nan).orderKey

/-- Both are integers, and the first is the greater one. -/
def Exceeds (a b : Cell) : Prop := ∃ x y, a.integer? = some x ∧ b.integer? = some y ∧ y < x

theorem rank_of_integer {x : Int} (h : c.integer? = some x) :
    c.rank = (Binary.ofInt x : Double).orderKey := by
  cases c <;> simp_all [integer?,rank,number?]

theorem compareNumeric_of_integers {x y : Int} (ha : a.integer? = some x)
    (hb : b.integer? = some y) : a.compareNumeric b = compare x y := by
  rw [compareNumeric,ha,hb]

theorem compareNumeric_of_float (h : a.integer? = none ∨ b.integer? = none) :
    a.compareNumeric b = compare a.rank b.rank := by
  unfold compareNumeric
  split
  next x y ha hb => simp [ha,hb] at h
  next => rfl

theorem integers_or_float (a b : Cell) : (∃ x y, a.integer? = some x ∧ b.integer? = some y) ∨
    (a.integer? = none ∨ b.integer? = none) := by
  cases a.integer? <;> cases b.integer? <;> simp

theorem rank_le_of_ne_gt (h : a.compareNumeric b ≠ .gt) : a.rank ≤ b.rank := by
  rcases integers_or_float a b with ⟨x,y,ha,hb⟩ | float
  · rw [compareNumeric_of_integers ha hb,ne_eq,compare_gt_iff_gt,not_lt] at h
    rw [rank_of_integer ha,rank_of_integer hb]
    exact Binary.orderKey_ofInt_mono h
  · rwa [compareNumeric_of_float float,ne_eq,compare_gt_iff_gt,not_lt] at h

theorem compareNumeric_eq_gt_iff : a.compareNumeric b = .gt ↔
    a.Exceeds b ∨ (a.integer? = none ∨ b.integer? = none) ∧ b.rank < a.rank := by
  rcases integers_or_float a b with ⟨x,y,ha,hb⟩ | float
  · rw [compareNumeric_of_integers ha hb,compare_gt_iff_gt]
    simp [Exceeds,ha,hb]
  · rw [compareNumeric_of_float float,compare_gt_iff_gt]
    constructor
    · exact fun less => .inr ⟨float,less⟩
    · rintro (⟨x,y,ha,hb,-⟩ | ⟨-,less⟩)
      · simp [ha,hb] at float
      · exact less

theorem compareNumeric_self (c : Cell) : c.compareNumeric c = .eq := by
  unfold compareNumeric
  split
  next x y hx hy =>
    obtain rfl := Option.some.inj (hx.symm.trans hy)
    exact compare_eq_iff_eq.mpr rfl
  next => exact compare_eq_iff_eq.mpr rfl

theorem ne_gt_of_gt (h : a.compareNumeric b = .gt) : b.compareNumeric a ≠ .gt := by
  intro back
  rcases compareNumeric_eq_gt_iff.mp h with ⟨x,y,ha,hb,less⟩ | ⟨float,less⟩
  · rw [compareNumeric_of_integers hb ha,compare_gt_iff_gt] at back
    omega
  · rw [compareNumeric_of_float float.symm,compare_gt_iff_gt] at back
    omega

theorem not_exceeds_of_rank_lt (h : a.rank < b.rank) : ¬ a.Exceeds b := by
  rintro ⟨x,y,ha,hb,less⟩
  rw [rank_of_integer ha,rank_of_integer hb] at h
  have := Binary.orderKey_ofInt_mono (f := .double) less.le
  omega

/-- Equality is not transitive, but what is strictly below a cell is below all that the cell is
below. -/
theorem ne_gt_of_gt_of_ne_gt (hab : a.compareNumeric b = .gt) (hac : a.compareNumeric c ≠ .gt) :
    b.compareNumeric c ≠ .gt := by
  have hba := rank_le_of_ne_gt (ne_gt_of_gt hab)
  have hac' := rank_le_of_ne_gt hac
  rw [ne_eq,compareNumeric_eq_gt_iff]
  rintro (exceeds | ⟨-,less⟩)
  · rcases compareNumeric_eq_gt_iff.mp hab with ⟨x,y,ha,hb,less⟩ | ⟨-,less⟩
    · obtain ⟨y',z,hb',hc,less'⟩ := exceeds
      obtain rfl := Option.some.inj (hb.symm.trans hb')
      rw [compareNumeric_of_integers ha hc,ne_eq,compare_gt_iff_gt] at hac
      omega
    · exact not_exceeds_of_rank_lt (less.trans_le hac') exceeds
  · omega

end Cell

namespace NumericStatistics

/-- What holds of the first of a list and is kept by each step holds of what a fold ends with. -/
theorem foldl_invariant {α : Type} {pick : α → α → α} {P : List α → α → Prop} {first : α}
    (start : P [first] first) (step : ∀ seen a b, P seen a → P (seen++[b]) (pick a b))
    (rest : List α) : P (first :: rest) (rest.foldl pick first) := by
  induction rest using List.reverseRecOn with
  | nil => exact start
  | append_singleton rest b ih =>
    rw [List.foldl_append]
    exact step (first :: rest) _ b ih

theorem leastOf_ne_gt (first : Cell) (rest : List Cell) :
    ∀ c ∈ first :: rest, (leastOf first rest).compareNumeric c ≠ .gt := by
  unfold leastOf
  refine foldl_invariant (P := fun seen a => ∀ c ∈ seen, a.compareNumeric c ≠ .gt) ?_ ?_ rest
  · simp [Cell.compareNumeric_self]
  · intro seen a b below c hc
    rcases List.mem_append.mp hc with old | new
    · by_cases above : a.compareNumeric b = .gt
      · rw [if_pos above]
        exact Cell.ne_gt_of_gt_of_ne_gt above (below c old)
      · rw [if_neg above]
        exact below c old
    · obtain rfl := List.mem_singleton.mp new
      split_ifs with above
      · simp [Cell.compareNumeric_self]
      · exact above

/-- The cell is greatest among the floats that numbers round to, and where it is below a number
there is a float between them. -/
structure Tops (seen : List Cell) (a : Cell) : Prop where
  rank : ∀ c ∈ seen, c.rank ≤ a.rank
  between : ∀ c ∈ seen, c.compareNumeric a = .gt → ∃ d ∈ seen, d.integer? = none ∧ d.rank = a.rank

theorem Tops.keep {seen : List Cell} {a b : Cell} (h : Tops seen a)
    (above : a.compareNumeric b = .gt) : Tops (seen++[b]) a where
  rank := by
    have hb := Cell.rank_le_of_ne_gt (Cell.ne_gt_of_gt above)
    simpa [or_imp,forall_and] using ⟨h.rank,hb⟩
  between := by
    intro c hc greater
    rcases List.mem_append.mp hc with old | new
    · obtain ⟨d,hd,float⟩ := h.between c old greater
      exact ⟨d,List.mem_append_left _ hd,float⟩
    · obtain rfl := List.mem_singleton.mp new
      exact (Cell.ne_gt_of_gt above greater).elim

/-- Among equals the later cell takes over. A number above it, but not above what it replaces, shows
that what it replaces is a float. -/
theorem Tops.replace {seen : List Cell} {a b : Cell} (h : Tops seen a) (ha : a ∈ seen)
    (notAbove : a.compareNumeric b ≠ .gt) : Tops (seen++[b]) b where
  rank := by
    have hb := Cell.rank_le_of_ne_gt notAbove
    simp only [List.mem_append,List.mem_singleton]
    rintro c (old | rfl)
    · exact (h.rank c old).trans hb
    · exact le_refl _
  between := by
    have hb := Cell.rank_le_of_ne_gt notAbove
    intro c hc greater
    rcases List.mem_append.mp hc with old | new
    · have hca := h.rank c old
      rcases Cell.compareNumeric_eq_gt_iff.mp greater with exceeds | ⟨-,less⟩
      · have same : a.rank = b.rank := by
          by_contra apart
          exact Cell.not_exceeds_of_rank_lt (by omega) exceeds
        obtain ⟨x,z,hc,hb,less⟩ := exceeds
        cases hay : a.integer? with
        | none => exact ⟨a,List.mem_append_left _ ha,hay,same⟩
        | some y =>
          rw [Cell.compareNumeric_of_integers hay hb,ne_eq,compare_gt_iff_gt] at notAbove
          have above : c.compareNumeric a = .gt := by
            rw [Cell.compareNumeric_of_integers hc hay,compare_gt_iff_gt]
            omega
          obtain ⟨d,hd,float,rank⟩ := h.between c old above
          exact ⟨d,List.mem_append_left _ hd,float,rank.trans same⟩
      · omega
    · obtain rfl := List.mem_singleton.mp new
      simp [Cell.compareNumeric_self] at greater

theorem tops_greatestOf (first : Cell) (rest : List Cell) :
    Tops (first :: rest) (greatestOf first rest) := by
  unfold greatestOf
  refine (foldl_invariant (P := fun seen a => a ∈ seen ∧ Tops seen a) ?_ ?_ rest).2
  · exact ⟨by simp,⟨by simp,by simp [Cell.compareNumeric_self]⟩⟩
  · rintro seen a b ⟨ha,h⟩
    by_cases above : a.compareNumeric b = .gt
    · rw [if_pos above]
      exact ⟨List.mem_append_left _ ha,h.keep above⟩
    · rw [if_neg above]
      exact ⟨by simp,h.replace ha above⟩

/-- Both ends are numbers of the list. The least one is above none of them; the greatest one is
below none either, unless it is an integer that rounds to a float of the list to which a greater
integer rounds too. -/
theorem ofCells_bounds {cells : List Cell} {n : NumericStatistics} (h : ofCells cells = some n) :
    (n.least ∈ cells ∧ n.least.number?.isSome) ∧ (n.greatest ∈ cells ∧ n.greatest.number?.isSome) ∧
    ∀ c ∈ cells, c.number?.isSome →
      (n.least.compareNumeric c ≠ .gt ∧ ¬ n.least.Exceeds c) ∧
      (c.compareNumeric n.greatest ≠ .gt ∧ ¬ c.Exceeds n.greatest ∨
        c.Exceeds n.greatest ∧ ∃ x, .float x ∈ cells ∧ c.compareNumeric (.float x) = .eq ∧
          (Cell.float x).compareNumeric n.greatest = .eq) := by
  obtain ⟨least,greatest,-⟩ := ofCells_eq_some h
  refine ⟨List.mem_filter.mp least,List.mem_filter.mp greatest,fun c hc number => ?_⟩
  have member : c ∈ numbers cells := List.mem_filter.mpr ⟨hc,number⟩
  obtain ⟨first,rest,hn⟩ := List.exists_cons_of_ne_nil (List.ne_nil_of_mem member)
  unfold ofCells at h
  rw [show cells.filter (·.number?.isSome) = first :: rest from hn] at h
  obtain rfl := Option.some.inj h
  have lower := leastOf_ne_gt first rest c (hn ▸ member)
  have upper := tops_greatestOf first rest
  refine ⟨⟨lower,fun exceeds => lower (Cell.compareNumeric_eq_gt_iff.mpr (.inl exceeds))⟩,?_⟩
  by_cases above : c.compareNumeric (greatestOf first rest) = .gt
  · right
    have rank := upper.rank c (hn ▸ member)
    obtain ⟨d,hd,float,between⟩ := upper.between c (hn ▸ member) above
    obtain ⟨hd,dNumber⟩ := List.mem_filter.mp (hn ▸ hd : d ∈ numbers cells)
    have exceeds : c.Exceeds (greatestOf first rest) := by
      rcases Cell.compareNumeric_eq_gt_iff.mp above with exceeds | ⟨-,less⟩
      · exact exceeds
      · omega
    have same : c.rank = (greatestOf first rest).rank := by
      by_contra apart
      exact Cell.not_exceeds_of_rank_lt (by omega) exceeds
    cases d with
    | float x =>
      refine ⟨exceeds,x,hd,?_,?_⟩
      · rw [Cell.compareNumeric_of_float (.inr float),compare_eq_iff_eq]
        omega
      · rw [Cell.compareNumeric_of_float (.inl float),compare_eq_iff_eq]
        exact between
    | int | uint => cases float
    | null | bool | text | other => cases dNumber
  · exact .inl ⟨above,fun exceeds => above (Cell.compareNumeric_eq_gt_iff.mpr (.inl exceeds))⟩

theorem ofCells_bounds_of_mixed_cells :
    let power : Double := .ofInt 9007199254740992
    let cells : List Cell := [.text "9",.int 9007199254740993,.null,.float power,.uint 9007199254740992]
    let n : NumericStatistics := ⟨.uint 9007199254740992,.uint 9007199254740992,some power⟩
    ofCells cells = some n ∧
      ∀ c ∈ cells, c.number?.isSome → n.least.compareNumeric c ≠ .gt ∧ ¬ n.least.Exceeds c := by
  intro power cells n
  have statistics : ofCells cells = some n := by decide +kernel
  exact ⟨statistics,fun c hc number => ((ofCells_bounds statistics).2.2 c hc number).1⟩

/-- The float equals both integers and stands between them, so the later and lower one takes over. -/
theorem greatest_below_earlier_integer :
    let power : Double := .ofInt 9007199254740992
    let cells : List Cell := [.int 9007199254740993,.float power,.int 9007199254740992]
    ofCells cells = some ⟨.int 9007199254740992,.int 9007199254740992,some power⟩ ∧
      (Cell.int 9007199254740993).compareNumeric (.int 9007199254740992) = .gt := by
  decide +kernel

end NumericStatistics
end ColumnarReport
