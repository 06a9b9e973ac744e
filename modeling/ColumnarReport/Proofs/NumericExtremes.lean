import Mathlib
import ColumnarReport.Proofs.NumericBounds
import ColumnarReport.Proofs.TotalOrder

/-! Where the ends of the range stand in a list whose numbers are all integers or all floats. There
the numbers are ordered without gaps, so the least cell is the earliest of the least and the greatest
cell is the latest of the greatest, whatever other cells stand between. -/
namespace ColumnarReport

namespace Cell

/-- Of two integers the lower one, and of two floats the one that comes first in the total order. -/
inductive Below : Cell → Cell → Prop
  | integers {a b : Cell} {x y : Int} (ha : a.integer? = some x) (hb : b.integer? = some y)
    (less : x < y) : Below a b
  | floats {x y : Double} (first : x.Precedes y) : Below (.float x) (.float y)

inductive Kind
  | integer
  | float

def IsOf (c : Cell) : Kind → Prop
  | .integer => c.integer?.isSome
  | .float => ∃ x, c = .float x

def key (c : Cell) : Kind → Int
  | .integer => c.integer?.getD 0
  | .float => c.rank

variable {a b c : Cell} {kind : Kind}

theorem below_iff (ha : a.IsOf kind) (hb : b.IsOf kind) : a.Below b ↔ a.key kind < b.key kind := by
  cases kind with
  | integer =>
    obtain ⟨x,hx⟩ := Option.isSome_iff_exists.mp ha
    obtain ⟨y,hy⟩ := Option.isSome_iff_exists.mp hb
    simp only [key,hx,hy,Option.getD_some]
    constructor
    · intro below
      cases below with
      | integers ha hb less =>
        obtain rfl := Option.some.inj (hx.symm.trans ha)
        obtain rfl := Option.some.inj (hy.symm.trans hb)
        exact less
      | floats first => cases hx
    · exact .integers hx hy
  | float =>
    obtain ⟨x,rfl⟩ := ha
    obtain ⟨y,rfl⟩ := hb
    change _ ↔ x.orderKey < y.orderKey
    rw [← Binary.precedes_iff]
    constructor
    · intro below
      cases below with
      | integers ha hb less => cases ha
      | floats first => exact first
    · exact .floats

theorem compareNumeric_eq_gt_iff_key (ha : a.IsOf kind) (hb : b.IsOf kind) :
    a.compareNumeric b = .gt ↔ b.key kind < a.key kind := by
  cases kind with
  | integer =>
    obtain ⟨x,hx⟩ := Option.isSome_iff_exists.mp ha
    obtain ⟨y,hy⟩ := Option.isSome_iff_exists.mp hb
    rw [compareNumeric_of_integers hx hy,compare_gt_iff_gt]
    simp [key,hx,hy]
  | float =>
    obtain ⟨x,rfl⟩ := ha
    rw [compareNumeric_of_float (.inl rfl),compare_gt_iff_gt]
    rfl

end Cell

namespace NumericStatistics

open Cell (Kind)

variable {cells : List Cell} {c : Cell} {R S : Cell → Cell → Prop}

/-- The number is related by `R` to the numbers before it and by `S` to those behind it. -/
def Stands (R S : Cell → Cell → Prop) (cells : List Cell) (c : Cell) : Prop :=
  ∃ before after, cells = before++c :: after ∧ c.number?.isSome ∧
    (∀ d ∈ numbers before, R c d) ∧ ∀ d ∈ numbers after, S c d

def EarliestLeast : List Cell → Cell → Prop :=
  Stands (fun c d => c.Below d) (fun c d => ¬ d.Below c)

def LatestGreatest : List Cell → Cell → Prop :=
  Stands (fun c d => ¬ c.Below d) (fun c d => d.Below c)

def OneKind (cells : List Cell) : Prop := ∃ kind, ∀ c ∈ numbers cells, c.IsOf kind

theorem numbers_append (xs ys : List Cell) : numbers (xs++ys) = numbers xs++numbers ys :=
  List.filter_append ..

@[simp] theorem numbers_numbers (cells : List Cell) : numbers (numbers cells) = numbers cells := by
  simp [numbers]

theorem Stands.of_numbers (h : Stands R S (numbers cells) c) : Stands R S cells c := by
  obtain ⟨before,after,split,number,hbefore,hafter⟩ := h
  obtain ⟨left,right,rfl,rfl,hr⟩ := List.filter_eq_append_iff.mp split
  obtain ⟨skipped,rest,rfl,others,-,rfl⟩ := List.filter_eq_cons_iff.mp hr
  have skip : numbers skipped = [] := List.filter_eq_nil_iff.mpr others
  refine ⟨left++skipped,rest,by simp,number,?_,?_⟩
  · rw [numbers_append,skip,List.append_nil]
    exact fun d hd => hbefore d ((numbers_numbers left).symm ▸ hd)
  · exact fun d hd => hafter d ((numbers_numbers rest).symm ▸ hd)

/-- A number that stays is related to the one behind it. -/
theorem Stands.keep (h : Stands R S cells c) {d : Cell} (behind : S c d) :
    Stands R S (cells++[d]) c := by
  obtain ⟨before,after,rfl,number,hbefore,hafter⟩ := h
  refine ⟨before,after++[d],by simp,number,hbefore,fun e he => ?_⟩
  rw [numbers_append] at he
  rcases List.mem_append.mp he with old | new
  · exact hafter e old
  · obtain rfl := List.mem_singleton.mp (List.mem_of_mem_filter new)
    exact behind

/-- A number that takes over is related to what the last one was related to. -/
theorem Stands.replace (h : Stands R S cells c) {d : Cell} (number : d.number?.isSome)
    (taken : R d c) (before : ∀ e ∈ numbers cells, R c e → R d e)
    (behind : ∀ e ∈ numbers cells, S c e → R d e) : Stands R S (cells++[d]) d := by
  obtain ⟨left,right,rfl,hc,hleft,hright⟩ := h
  refine ⟨left++c :: right,[],rfl,number,fun e he => ?_,by simp [numbers]⟩
  have member := he
  rw [numbers_append] at he
  rcases List.mem_append.mp he with first | later
  · exact before e member (hleft e first)
  · rcases List.mem_cons.mp (List.mem_of_mem_filter later) with rfl | last
    · exact taken
    · exact behind e member (hright e (List.mem_filter.mpr ⟨last,(List.mem_filter.mp later).2⟩))

variable {kind : Kind} {first : Cell} {rest : List Cell}

theorem number_of_isOf (h : c.IsOf kind) : c.number?.isSome := by
  cases kind with
  | integer =>
    cases c with
    | int | uint => rfl
    | null | bool | float | text | other => cases h
  | float =>
    obtain ⟨x,rfl⟩ := h
    rfl

theorem Stands.mem (h : Stands R S cells c) : c ∈ cells := by
  obtain ⟨before,after,rfl,-⟩ := h
  simp

theorem stands_single (h : c.IsOf kind) : Stands R S [c] c :=
  ⟨[],[],rfl,number_of_isOf h,by simp [numbers],by simp [numbers]⟩

/-- A cell gives way to the first one below it. -/
theorem earliestLeast_leastOf (all : ∀ c ∈ first :: rest, c.IsOf kind) :
    EarliestLeast (first :: rest) (leastOf first rest) := by
  unfold leastOf
  refine foldl_invariant (P := fun seen a => (∀ c ∈ seen, c.IsOf kind) → EarliestLeast seen a)
    (fun kinds => stands_single (kinds first (by simp))) ?_ rest all
  intro seen a b ih kinds
  have old (c : Cell) (hc : c ∈ seen) : c.IsOf kind := kinds c (List.mem_append_left _ hc)
  have stands := ih old
  have ha := old a stands.mem
  have hb := kinds b (by simp)
  split_ifs with above
  · rw [Cell.compareNumeric_eq_gt_iff_key ha hb] at above
    refine stands.replace (number_of_isOf hb) ((Cell.below_iff hb ha).mpr above) ?_ ?_ <;>
      intro e he <;> have he := old e (List.mem_of_mem_filter he)
    · rw [Cell.below_iff ha he,Cell.below_iff hb he]
      exact above.trans
    · rw [Cell.below_iff he ha,Cell.below_iff hb he,not_lt]
      exact above.trans_le
  · rw [Cell.compareNumeric_eq_gt_iff_key ha hb] at above
    exact stands.keep (mt (Cell.below_iff hb ha).mp above)

/-- A cell gives way to the first one that it is not above. -/
theorem latestGreatest_greatestOf (all : ∀ c ∈ first :: rest, c.IsOf kind) :
    LatestGreatest (first :: rest) (greatestOf first rest) := by
  unfold greatestOf
  refine foldl_invariant (P := fun seen a => (∀ c ∈ seen, c.IsOf kind) → LatestGreatest seen a)
    (fun kinds => stands_single (kinds first (by simp))) ?_ rest all
  intro seen a b ih kinds
  have old (c : Cell) (hc : c ∈ seen) : c.IsOf kind := kinds c (List.mem_append_left _ hc)
  have stands := ih old
  have ha := old a stands.mem
  have hb := kinds b (by simp)
  split_ifs with above
  · rw [Cell.compareNumeric_eq_gt_iff_key ha hb] at above
    exact stands.keep ((Cell.below_iff hb ha).mpr above)
  · rw [Cell.compareNumeric_eq_gt_iff_key ha hb] at above
    refine stands.replace (number_of_isOf hb) (mt (Cell.below_iff hb ha).mp above) ?_ ?_ <;>
      intro e he <;> have he := old e (List.mem_of_mem_filter he)
    · rw [Cell.below_iff ha he,Cell.below_iff hb he]
      omega
    · rw [Cell.below_iff he ha,Cell.below_iff hb he]
      omega

theorem ofCells_of_numbers (h : numbers cells = first :: rest) :
    ofCells cells = some ⟨leastOf first rest,greatestOf first rest,averageOf (first :: rest)⟩ := by
  unfold ofCells
  rw [show cells.filter (·.number?.isSome) = first :: rest from h]

/-- Statistics are absent where there are no numbers. Among numbers of one kind the ends of the range
are the earliest least and the latest greatest cell, and an average needs two numbers. -/
theorem ofCells_extremes (h : OneKind cells) :
    (ofCells cells = none ↔ numbers cells = []) ∧
    ∀ n, ofCells cells = some n → EarliestLeast cells n.least ∧ LatestGreatest cells n.greatest ∧
      (n.average.isSome ↔ 2 ≤ (numbers cells).length) := by
  refine ⟨ofCells_eq_none_iff,fun n hn => ?_⟩
  obtain ⟨kind,all⟩ := h
  have average := (ofCells_eq_some hn).2.2
  cases hnumbers : numbers cells with
  | nil => simp [ofCells_eq_none_iff.mpr hnumbers] at hn
  | cons first rest =>
    rw [hnumbers] at all average
    obtain rfl := Option.some.inj ((ofCells_of_numbers hnumbers).symm.trans hn)
    refine ⟨Stands.of_numbers ?_,Stands.of_numbers ?_,average⟩ <;> rw [hnumbers]
    · exact earliestLeast_leastOf all
    · exact latestGreatest_greatestOf all

theorem ofCells_extremes_of_ties :
    let cells : List Cell := [.text "9",.uint 7,.null,.int 7]
    let zeros : List Cell := [.float (.zero false),.bool true,.float (.zero true)]
    (OneKind cells ∧ EarliestLeast cells (.uint 7) ∧ LatestGreatest cells (.int 7)) ∧
      OneKind zeros ∧ EarliestLeast zeros (.float (.zero true)) ∧
        LatestGreatest zeros (.float (.zero false)) := by
  intro cells zeros
  have integers : OneKind cells := ⟨.integer,by simp +decide [cells,numbers,Cell.IsOf]⟩
  have floats : OneKind zeros := ⟨.float,by simp +decide [zeros,numbers,Cell.IsOf]⟩
  have sevens : ofCells cells = some ⟨.uint 7,.int 7,some (.ofInt 7)⟩ := by decide +kernel
  have signs : ofCells zeros =
      some ⟨.float (.zero true),.float (.zero false),some (.zero false)⟩ := by decide +kernel
  obtain ⟨least,greatest,-⟩ := (ofCells_extremes integers).2 _ sevens
  obtain ⟨least',greatest',-⟩ := (ofCells_extremes floats).2 _ signs
  exact ⟨⟨integers,least,greatest⟩,floats,least',greatest'⟩

end NumericStatistics
end ColumnarReport
