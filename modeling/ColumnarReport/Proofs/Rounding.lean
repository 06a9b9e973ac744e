import Mathlib
import ColumnarReport.Number.Binary

/-! Rounding keeps the order of numbers: a larger quotient never rounds to a smaller magnitude, within
a binade or across its end. -/
namespace ColumnarReport

theorem roundQuotient_bounds (num den : Nat) :
    num/den ≤ roundQuotient num den ∧ roundQuotient num den ≤ num/den+1 := by
  simp only [roundQuotient]
  split_ifs <;> omega

theorem roundQuotient_mono {a b : Nat} (den : Nat) (h : a ≤ b) :
    roundQuotient a den ≤ roundQuotient b den := by
  have quotients : a/den ≤ b/den := Nat.div_le_div_right h
  rcases quotients.lt_or_eq with less | same
  · have ha := (roundQuotient_bounds a den).2
    have hb := (roundQuotient_bounds b den).1
    omega
  · -- Within one unit the remainders are ordered as the numbers are.
    have ha := Nat.div_add_mod a den
    have hb := Nat.div_add_mod b den
    rw [same] at ha
    have remainders : a%den ≤ b%den := by omega
    simp only [roundQuotient,same]
    split_ifs <;> omega

namespace BinaryFormat

variable (f : BinaryFormat) {a b den : Nat}

/-- A whole number below the end of its binade rounds to no more than that end. -/
theorem roundQuotient_le_of_log2 {shift : Nat} (h : (a/den).log2-f.fractionBits ≤ shift) :
    roundQuotient a (den*2^shift) ≤ 2*2^f.fractionBits := by
  have whole : a/den < 2^((a/den).log2+1) := Nat.lt_log2_self
  have below : a/den < 2*2^f.fractionBits*2^shift := by
    refine whole.trans_le ?_
    rw [← Nat.pow_succ',← Nat.pow_add]
    exact Nat.pow_le_pow_right (by decide) (by omega)
  have quotient : a/(den*2^shift) < 2*2^f.fractionBits := by
    rw [← Nat.div_div_eq_div_mul]
    exact Nat.div_lt_of_lt_mul (by rwa [Nat.mul_comm] at below)
  have := (roundQuotient_bounds a (den*2^shift)).2
  omega

theorem pow_le_of_log2 {shift : Nat} (positive : 0 < shift)
    (h : (b/den).log2-f.fractionBits = shift) : 2^f.fractionBits*2^shift ≤ b/den := by
  have some : b/den ≠ 0 := by
    rintro none
    simp [none] at h
    omega
  rw [← Nat.pow_add,← h,Nat.add_sub_cancel' (by omega)]
  exact Nat.log2_self_le some

/-- In a binade beyond the first, numbers round to at least its start. -/
theorem le_roundQuotient_of_log2 {shift : Nat} (positive : 0 < shift)
    (h : (b/den).log2-f.fractionBits = shift) :
    2^f.fractionBits ≤ roundQuotient b (den*2^shift) := by
  refine le_trans ?_ (roundQuotient_bounds b (den*2^shift)).1
  rw [← Nat.div_div_eq_div_mul]
  exact (Nat.le_div_iff_mul_le (Nat.two_pow_pos shift)).mpr (f.pow_le_of_log2 positive h)

theorem nearest_mono (den : Nat) (h : a ≤ b) : f.nearest a den ≤ f.nearest b den := by
  have logs : (a/den).log2 ≤ (b/den).log2 := by
    rw [Nat.log2_eq_log_two,Nat.log2_eq_log_two]
    exact Nat.log_mono_right (Nat.div_le_div_right h)
  simp only [nearest]
  refine min_le_min_right _ ?_
  rcases (Nat.sub_le_sub_right logs f.fractionBits).lt_or_eq with less | same
  · -- The ends of the two binades are a whole binade apart.
    have low := f.roundQuotient_le_of_log2 (le_refl ((a/den).log2-f.fractionBits))
    have beyond : 0 < (b/den).log2-f.fractionBits := by omega
    have high := f.le_roundQuotient_of_log2 beyond rfl
    have apart := Nat.mul_le_mul_right (2^f.fractionBits) (Nat.succ_le_of_lt less)
    rw [Nat.succ_mul] at apart
    omega
  · rw [same]
    exact Nat.add_le_add_left (roundQuotient_mono _ h) _

end BinaryFormat

namespace Binary

variable {f : BinaryFormat}

/-- Integers keep their order as floats, though different ones may become equal. -/
theorem orderKey_ofInt_mono {x y : Int} (h : x ≤ y) :
    (ofInt x : Binary f).orderKey ≤ (ofInt y : Binary f).orderKey := by
  have magnitude {a b : Nat} (h : a ≤ b) :
      f.nearest (a*f.unitsPerOne) 1 ≤ f.nearest (b*f.unitsPerOne) 1 :=
    f.nearest_mono 1 (Nat.mul_le_mul_right _ h)
  simp only [orderKey,ofInt,round,decide_eq_true_eq]
  by_cases hx : x < 0
  · by_cases hy : y < 0
    · have := magnitude (show y.natAbs ≤ x.natAbs by omega)
      simp only [if_pos hx,if_pos hy]
      omega
    · simp only [if_pos hx,if_neg hy]
      omega
  · have := magnitude (show x.natAbs ≤ y.natAbs by omega)
    simp only [if_neg hx,if_neg (show ¬ y < 0 by omega)]
    omega

end Binary
end ColumnarReport
