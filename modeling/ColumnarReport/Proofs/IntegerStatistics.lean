import Mathlib
import ColumnarReport.Proofs.NumericExtremes

/-! Statistics of a list whose numbers are all integers. They are functions of its integers up to
their order: the ends of their range, their exact sum and their count. So they do not depend on the
order of the list or on other cells in it, and the sum stays within 128 bits. -/
namespace ColumnarReport

theorem Cell.integer?_bounds {c : Cell} {x : Int} (h : c.integer? = some x) :
    -2^63 ≤ x ∧ x < 2^64 := by
  cases c with
  | int v =>
    obtain rfl := Option.some.inj h
    have := v.toInt_lt
    exact ⟨v.le_toInt,by omega⟩
  | uint v =>
    obtain rfl := Option.some.inj h
    have := v.toNat_lt
    omega
  | null | bool | float | text | other => cases h

namespace NumericStatistics

variable {cells others : List Cell} {n : NumericStatistics}

def integers (cells : List Cell) : List Int := cells.filterMap Cell.integer?

def AllIntegers (cells : List Cell) : Prop := ∀ c ∈ numbers cells, c.integer?.isSome

theorem mem_integers {x : Int} : x ∈ integers cells ↔ ∃ c ∈ cells, c.integer? = some x :=
  List.mem_filterMap

theorem integers_numbers (cells : List Cell) : integers (numbers cells) = integers cells := by
  rw [integers,numbers,List.filterMap_filter]
  congr 1
  funext c
  cases c <;> rfl

theorem length_integers (all : AllIntegers cells) :
    (integers cells).length = (numbers cells).length := by
  rw [← integers_numbers]
  exact List.filterMap_length_eq_length.mpr all

structure Spans (xs : List Int) (low high : Int) : Prop where
  low_mem : low ∈ xs
  high_mem : high ∈ xs
  bounds : ∀ x ∈ xs, low ≤ x ∧ x ≤ high

theorem Spans.unique {xs ys : List Int} {a b c d : Int} (h : Spans xs a b) (h' : Spans ys c d)
    (same : xs.Perm ys) : a = c ∧ b = d := by
  have ac := (h'.bounds a (same.subset h.low_mem)).1
  have ca := (h.bounds c (same.symm.subset h'.low_mem)).1
  have bd := (h'.bounds b (same.subset h.high_mem)).2
  have db := (h.bounds d (same.symm.subset h'.high_mem)).2
  omega

theorem sumOf_of_integers {xs : List Cell} (all : ∀ c ∈ xs, c.integer?.isSome) :
    sumOf xs = .ofInt (integers xs).sum := by
  have lengths : (xs.filterMap Cell.integer?).length = xs.length :=
    List.filterMap_length_eq_length.mpr all
  rw [sumOf,if_pos lengths]
  rfl

def averageOfIntegers (xs : List Int) : Option Double :=
  if 1 < xs.length then some ((Binary.ofInt xs.sum).div (.ofInt xs.length)) else none

theorem ofCells_of_integers (all : AllIntegers cells) (h : ofCells cells = some n) :
    ∃ low high, n.least.integer? = some low ∧ n.greatest.integer? = some high ∧
      Spans (integers cells) low high ∧ n.average = averageOfIntegers (integers cells) := by
  cases hnumbers : numbers cells with
  | nil => simp [ofCells_eq_none_iff.mpr hnumbers] at h
  | cons first rest =>
    obtain rfl := Option.some.inj ((ofCells_of_numbers hnumbers).symm.trans h)
    have kinds : ∀ c ∈ first :: rest, c.IsOf .integer := hnumbers ▸ all
    obtain ⟨low,hlow⟩ := Option.isSome_iff_exists.mp (kinds _ (ends_mem first rest).1)
    obtain ⟨high,hhigh⟩ := Option.isSome_iff_exists.mp (kinds _ (ends_mem first rest).2)
    have hintegers : integers cells = integers (first :: rest) := by
      rw [← hnumbers,integers_numbers]
    refine ⟨low,high,hlow,hhigh,⟨?_,?_,?_⟩,?_⟩
    · rw [hintegers]
      exact mem_integers.mpr ⟨_,(ends_mem first rest).1,hlow⟩
    · rw [hintegers]
      exact mem_integers.mpr ⟨_,(ends_mem first rest).2,hhigh⟩
    · intro x hx
      rw [hintegers] at hx
      obtain ⟨c,hc,hx⟩ := mem_integers.mp hx
      have lower := leastOf_ne_gt first rest c hc
      have upper : c.compareNumeric (greatestOf first rest) ≠ .gt := by
        intro greater
        obtain ⟨d,hd,float,-⟩ := (tops_greatestOf first rest).between c hc greater
        simpa [Cell.IsOf,float] using kinds d hd
      rw [Cell.compareNumeric_of_integers hlow hx,ne_eq,compare_gt_iff_gt] at lower
      rw [Cell.compareNumeric_of_integers hx hhigh,ne_eq,compare_gt_iff_gt] at upper
      exact ⟨not_lt.mp lower,not_lt.mp upper⟩
    · have lengths := length_integers all
      rw [hnumbers,hintegers] at lengths
      simp only [averageOf,averageOfIntegers,sumOf_of_integers kinds,hintegers,lengths]

/-- Sums of a list of bounded integers are bounded by their number. -/
theorem sum_bounds {xs : List Int} (h : ∀ x ∈ xs, -2^63 ≤ x ∧ x < 2^64)
    (short : xs.length < 2^63) : -2^127 ≤ xs.sum ∧ xs.sum < 2^127 := by
  have low := List.card_nsmul_le_sum xs (-2^63) fun x hx => (h x hx).1
  have high := List.sum_le_card_nsmul xs (2^64-1) fun x hx => Int.le_sub_one_of_lt (h x hx).2
  rw [nsmul_eq_mul] at low high
  have count : (xs.length : Int) < 2^63 := by exact_mod_cast short
  constructor
  · linarith
  · linarith

/-- The lists made of a list by moving cells, and by putting in and taking out cells that are no
numbers. -/
inductive Rearranged : List Cell → List Cell → Prop
  | move {xs ys : List Cell} (h : xs.Perm ys) : Rearranged xs ys
  | insert (before after : List Cell) {c : Cell} (h : c.number? = none) :
    Rearranged (before++after) (before++c :: after)
  | delete (before after : List Cell) {c : Cell} (h : c.number? = none) :
    Rearranged (before++c :: after) (before++after)
  | trans {xs ys zs : List Cell} (h : Rearranged xs ys) (h' : Rearranged ys zs) : Rearranged xs zs

theorem numbers_insert (before after : List Cell) {c : Cell} (h : c.number? = none) :
    numbers (before++c :: after) = numbers (before++after) := by
  simp [numbers,h]

/-- What is left of a list by its numbers is only moved. -/
theorem Rearranged.numbers_perm (h : Rearranged cells others) :
    (numbers cells).Perm (numbers others) := by
  induction h with
  | move h => exact h.filter _
  | insert before after h => rw [numbers_insert before after h]
  | delete before after h => rw [numbers_insert before after h]
  | trans _ _ ih ih' => exact ih.trans ih'

theorem Rearranged.integers_perm (h : Rearranged cells others) :
    (integers cells).Perm (integers others) := by
  rw [← integers_numbers cells,← integers_numbers others]
  exact h.numbers_perm.filterMap _

theorem averageOfIntegers_perm {xs ys : List Int} (h : xs.Perm ys) :
    averageOfIntegers xs = averageOfIntegers ys := by
  rw [averageOfIntegers,averageOfIntegers,h.length_eq,h.sum_eq]

/-- Wherever a sum of the list begins and ends, it is an integer of 128 bits. -/
def SumsFit (xs : List Int) : Prop := ∀ part, part <:+: xs → -2^127 ≤ part.sum ∧ part.sum < 2^127

theorem sumsFit_of_perm {xs : List Int} (short : cells.length < 2^63) (h : (integers cells).Perm xs) :
    SumsFit xs := by
  intro part contained
  refine sum_bounds (fun x hx => ?_) ?_
  · obtain ⟨c,-,hc⟩ := mem_integers.mp (h.symm.subset (contained.subset hx))
    exact Cell.integer?_bounds hc
  · calc part.length ≤ xs.length := contained.length_le
      _ = (integers cells).length := h.symm.length_eq
      _ ≤ cells.length := List.length_filterMap_le ..
      _ < 2^63 := short

/-- The sum of the integers never leaves 128 bits and is rounded once. After any rearrangement the
same holds, and the ends of the range are the same integers and the average the same double. -/
theorem ofCells_rearranged (short : cells.length < 2^63) (all : AllIntegers cells) :
    SumsFit (integers cells) ∧ sumOf (numbers cells) = .ofInt (integers cells).sum ∧
    ∀ others, Rearranged cells others →
      SumsFit (integers others) ∧ sumOf (numbers others) = sumOf (numbers cells) ∧
      (ofCells others = none ↔ ofCells cells = none) ∧
      ∀ n m, ofCells cells = some n → ofCells others = some m →
        ∃ low high, (n.least.integer? = some low ∧ m.least.integer? = some low) ∧
          (n.greatest.integer? = some high ∧ m.greatest.integer? = some high) ∧
          m.average = n.average := by
  have sum := (sumOf_of_integers all).trans (by rw [integers_numbers])
  refine ⟨sumsFit_of_perm short (.refl _),sum,fun others rearranged => ?_⟩
  have same := rearranged.numbers_perm
  have perm := rearranged.integers_perm
  have all' : AllIntegers others := fun c hc => all c (same.symm.subset hc)
  refine ⟨sumsFit_of_perm short perm,?_,?_,fun n m hn hm => ?_⟩
  · rw [sum,sumOf_of_integers all',integers_numbers,perm.sum_eq]
  · rw [ofCells_eq_none_iff,ofCells_eq_none_iff,← List.length_eq_zero_iff,← same.length_eq,
      List.length_eq_zero_iff]
  · obtain ⟨low,high,least,greatest,spans,average⟩ := ofCells_of_integers all hn
    obtain ⟨low',high',least',greatest',spans',average'⟩ := ofCells_of_integers all' hm
    obtain ⟨rfl,rfl⟩ := spans.unique spans' perm
    exact ⟨low,high,⟨least,least'⟩,⟨greatest,greatest'⟩,
      by rw [average,average',averageOfIntegers_perm perm]⟩

/-- The greatest unsigned and the least signed integer change places, a null goes and a text comes. -/
theorem ofCells_rearranged_of_ends :
    let cells : List Cell := [.uint 18446744073709551615,.null,.int (-9223372036854775808)]
    let others : List Cell := [.int (-9223372036854775808),.text "0",.uint 18446744073709551615]
    cells.length < 2^63 ∧ AllIntegers cells ∧ Rearranged cells others ∧ SumsFit (integers others) ∧
      ∃ n m, ofCells cells = some n ∧ ofCells others = some m ∧ m.average = n.average := by
  intro cells others
  have short : cells.length < 2^63 := by simp [cells]
  have all : AllIntegers cells := by simp +decide [AllIntegers,cells,numbers]
  have rearranged : Rearranged cells others :=
    (Rearranged.delete [.uint 18446744073709551615] [.int (-9223372036854775808)] rfl).trans
      ((Rearranged.move (List.Perm.swap ..)).trans
        (Rearranged.insert [.int (-9223372036854775808)] [.uint 18446744073709551615] rfl))
  obtain ⟨fit,-,-,same⟩ := (ofCells_rearranged short all).2.2 others rearranged
  obtain ⟨n,hn⟩ : ∃ n, ofCells cells = some n := ⟨_,rfl⟩
  obtain ⟨m,hm⟩ : ∃ m, ofCells others = some m := ⟨_,rfl⟩
  obtain ⟨low,high,-,-,average⟩ := same n m hn hm
  exact ⟨short,all,rearranged,fit,n,m,hn,hm,average⟩

end NumericStatistics
end ColumnarReport
