import ColumnarReport.Proofs.ReadBack

/-! Rounding to nearest, with ties to even, as a statement about distances: a magnitude is nearest to a
number where no other one is as near, unless a tie is decided by its even encoding. It comes to the
same as lying between the midpoints to the two neighbours. -/
namespace ColumnarReport

section

variable {a b v : ℚ}

theorem abs_sub_lt_iff_low (h : a < b) : |b-v| < |a-v| ↔ a+b < 2*v := by
  constructor
  · intro nearer
    rcases abs_cases (b-v) with ⟨eb,hb⟩ | ⟨eb,hb⟩ <;> rcases abs_cases (a-v) with ⟨ea,ha⟩ | ⟨ea,ha⟩ <;>
      linarith
  · intro beyond
    rw [abs_of_neg (show a-v < 0 by linarith),abs_lt]
    constructor <;> linarith

theorem abs_sub_eq_iff (h : a < b) : |a-v| = |b-v| ↔ a+b = 2*v := by
  constructor
  · intro same
    rcases abs_cases (b-v) with ⟨eb,hb⟩ | ⟨eb,hb⟩ <;> rcases abs_cases (a-v) with ⟨ea,ha⟩ | ⟨ea,ha⟩ <;>
      linarith
  · intro middle
    rw [abs_of_nonpos (show a-v ≤ 0 by linarith),abs_of_nonneg (show 0 ≤ b-v by linarith)]
    linarith

theorem abs_sub_lt_iff_high (h : a < b) : |a-v| < |b-v| ↔ 2*v < a+b := by
  have mirrored := abs_sub_lt_iff_low (v := -v) (neg_lt_neg h)
  rw [neg_sub_neg,neg_sub_neg,abs_sub_comm v a,abs_sub_comm v b] at mirrored
  exact mirrored.trans (by constructor <;> intro <;> linarith)

end

namespace BinaryFormat

variable (f : BinaryFormat)

/-- The number that a magnitude stands for. Magnitudes from infinity on stand for what a format
without a greatest exponent would have there. -/
def valueOf (n : Nat) : ℚ := f.units n/2^f.scale

theorem valueOf_strictMono : StrictMono f.valueOf := fun _ _ h =>
  div_lt_div_of_pos_right (Nat.cast_lt.mpr (f.units_strictMono h)) (by positivity)

theorem valueOf_nonneg (n : Nat) : 0 ≤ f.valueOf n := by
  unfold valueOf
  positivity

@[simp] theorem valueOf_zero : f.valueOf 0 = 0 := by
  simp [valueOf]

theorem midpoint_eq (n m : Nat) :
    ((f.units n+f.units m : Nat)/2^(f.scale+1) : ℚ) = (f.valueOf n+f.valueOf m)/2 := by
  rw [valueOf,valueOf,pow_succ]
  push_cast
  field_simp

/-- The number rounds to the magnitude: no other one is nearer to it, and only an even one may have
a rival that is as near. -/
def IsNearest (n : Nat) (v : ℚ) : Prop :=
  ∀ m, m ≠ n → |f.valueOf n-v| < |f.valueOf m-v| ∨ |f.valueOf n-v| = |f.valueOf m-v| ∧ n%2 = 0

variable {f} {n : Nat} {v : ℚ}

theorem IsNearest.roundsTo (h : f.IsNearest n v) (nonneg : 0 ≤ v) : RoundsTo f n v := by
  constructor
  · rw [midpoint_eq]
    rcases Nat.eq_zero_or_pos n with rfl | positive
    · simp only [Nat.zero_sub,valueOf_zero,add_zero,zero_div]
      exact nonneg.lt_or_eq.imp_right fun zero => ⟨zero.symm,trivial⟩
    · have before := f.valueOf_strictMono (show n-1 < n by omega)
      have rival := h (n-1) (by omega)
      rw [abs_sub_lt_iff_low before,eq_comm,abs_sub_eq_iff before] at rival
      refine rival.imp (fun beyond => ?_) (And.imp_left fun middle => ?_) <;> linarith
  · rw [midpoint_eq]
    have behind := f.valueOf_strictMono (show n < n+1 by omega)
    have rival := h (n+1) (by omega)
    rw [abs_sub_lt_iff_high behind,abs_sub_eq_iff behind] at rival
    refine rival.imp (fun below => ?_) (And.imp_left fun middle => ?_) <;> linarith

end BinaryFormat

theorem RoundsTo.isNearest {f : BinaryFormat} {n : Nat} {v : ℚ} (h : RoundsTo f n v) :
    f.IsNearest n v := by
  intro m other
  obtain ⟨low,high⟩ := h
  rw [f.midpoint_eq] at low high
  rcases Nat.lt_or_gt_of_ne other with less | more
  · have apart := f.valueOf_strictMono less
    have last := f.valueOf_strictMono.monotone (show m ≤ n-1 by omega)
    rw [abs_sub_lt_iff_low apart,eq_comm,abs_sub_eq_iff apart]
    rcases low with beyond | ⟨middle,even⟩
    · left
      linarith
    · rcases last.lt_or_eq with further | same
      · left
        linarith
      · right
        exact ⟨by linarith,even⟩
  · have apart := f.valueOf_strictMono more
    have next := f.valueOf_strictMono.monotone (show n+1 ≤ m by omega)
    rw [abs_sub_lt_iff_high apart,abs_sub_eq_iff apart]
    rcases high with below | ⟨middle,even⟩
    · left
      linarith
    · rcases next.lt_or_eq with further | same
      · left
        linarith
      · right
        exact ⟨by linarith,even⟩

theorem roundsTo_iff_isNearest {f : BinaryFormat} {n : Nat} {v : ℚ} (nonneg : 0 ≤ v) :
    RoundsTo f n v ↔ f.IsNearest n v :=
  ⟨RoundsTo.isNearest,fun h => h.roundsTo nonneg⟩

end ColumnarReport
