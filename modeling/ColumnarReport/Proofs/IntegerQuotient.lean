import ColumnarReport.Proofs.UnitGrid

/-! The double that an integer divided by a count becomes, each of them rounded to a double before.
-/
namespace ColumnarReport

/-- The relative errors of the terms of a quotient and of the quotient itself add up. -/
theorem abs_sub_div_le {s c x y z e : ℚ} (hs : 0 ≤ s) (hc : 0 < c) (he : 0 ≤ e) (small : 5*e ≤ 1)
    (hx : |x-s| ≤ e*s) (hy : |y-c| ≤ e*c) (hz : |z-x/y| ≤ e*(x/y)) :
    |z-s/c| ≤ 4*e*(s/c) := by
  rw [abs_sub_le_iff] at hx hy hz
  have wide : 0 < y := by nlinarith
  have positive : 0 ≤ s/c := div_nonneg hs hc.le
  have upper : (1-e)*(x/y) ≤ (1+e)*(s/c) := by
    rw [mul_div_assoc',mul_div_assoc',div_le_div_iff₀ wide hc]
    calc (1-e)*x*c ≤ (1-e)*((1+e)*s)*c := by gcongr <;> linarith
      _ = (1+e)*s*((1-e)*c) := by ring
      _ ≤ (1+e)*s*y := by gcongr; linarith
  have lower : (1-e)*(s/c) ≤ (1+e)*(x/y) := by
    rw [mul_div_assoc',mul_div_assoc',div_le_div_iff₀ hc wide]
    calc (1-e)*s*y ≤ (1-e)*s*((1+e)*c) := by
          refine mul_le_mul_of_nonneg_left (by linarith) (mul_nonneg (by linarith) hs)
      _ = (1+e)*((1-e)*s)*c := by ring
      _ ≤ (1+e)*x*c := by gcongr; linarith
  rw [abs_sub_le_iff]
  constructor
  · have : (1-e)*z ≤ (1-e)*((1+4*e)*(s/c)) := by
      calc (1-e)*z ≤ (1-e)*((1+e)*(x/y)) := mul_le_mul_of_nonneg_left (by linarith) (by linarith)
        _ = (1+e)*((1-e)*(x/y)) := by ring
        _ ≤ (1+e)*((1+e)*(s/c)) := mul_le_mul_of_nonneg_left upper (by linarith)
        _ ≤ (1-e)*((1+4*e)*(s/c)) := by nlinarith [mul_nonneg he positive]
    linarith [le_of_mul_le_mul_left this (by linarith)]
  · have : (1+e)*((1-4*e)*(s/c)) ≤ (1+e)*z := by
      calc (1+e)*((1-4*e)*(s/c)) ≤ (1-e)*((1-e)*(s/c)) := by nlinarith [mul_nonneg he positive]
        _ ≤ (1-e)*((1+e)*(x/y)) := mul_le_mul_of_nonneg_left lower (by linarith)
        _ = (1+e)*((1-e)*(x/y)) := by ring
        _ ≤ (1+e)*z := mul_le_mul_of_nonneg_left (by linarith) (by linarith)
    linarith [le_of_mul_le_mul_left this (by linarith)]

namespace Binary

open BinaryFormat (double)

section

variable {f : BinaryFormat} {x y : Binary f}

theorem div_of_isFinite (hx : x.isFinite) (hy : y.isFinite) (some : y.units ≠ 0) :
    x.div y = round (x.negative != y.negative) (x.units*f.unitsPerOne) y.units := by
  simp [div,isNaN_of_isFinite hx,isNaN_of_isFinite hy,isInfinite_of_isFinite hx,
    isInfinite_of_isFinite hy,some]

theorem div_of_isInfinite (hx : x.isFinite) (hy : y.isInfinite) :
    x.div y = zero (x.negative != y.negative) := by
  have notNaN : y.isNaN = false := by simp [isNaN,(isInfinite_iff.mp hy).le]
  simp [div,isNaN_of_isFinite hx,notNaN,isInfinite_of_isFinite hx,hy]

/-- Rounding is off by a small part of a number, unless it is among the least ones. -/
theorem round_near {negative : Bool} {num den : Nat}
    (finite : (round negative num den : Binary f).isFinite) (positive : 0 < den)
    (large : num = 0 ∨ 2^f.fractionBits*den ≤ num) :
    |((round negative num den : Binary f).units/f.unitsPerOne : ℚ)-num/den/f.unitsPerOne| ≤
      1/2^(f.fractionBits+1)*(num/den/f.unitsPerOne) := by
  have one : (0 : ℚ) < f.unitsPerOne := Nat.cast_pos.mpr f.unitsPerOne_pos
  rw [← sub_div,abs_div,abs_of_pos one,div_le_iff₀ one,mul_assoc,div_mul_cancel₀ _ one.ne']
  exact f.abs_units_nearest_sub_le_of_large (isFinite_iff.mp finite) positive large

end

variable {num den m : Nat}

theorem round_le (negative : Bool) (places : Nat) (hm : m ≤ 2^53) (deep : 52 ≤ places)
    (fits : places ≤ 2000) (positive : 0 < den) (h : num ≤ m*2^places*den) :
    (round negative num den : Double).isFinite ∧
      (round negative num den : Double).units ≤ m*2^places := by
  obtain ⟨n,units,bound⟩ := double.exists_units hm deep
  rw [← units] at h ⊢
  have small : n < double.infinity := by
    refine bound.trans_lt ?_
    change (places+2)*2^52 < (2^11-1)*2^52
    omega
  have below := double.nearest_le small.le positive h
  exact ⟨isFinite_iff.mpr (below.trans_lt small),double.units_strictMono.monotone below⟩

theorem le_round (negative : Bool) (places : Nat) (hm : m ≤ 2^53) (deep : 52 ≤ places)
    (fits : places ≤ 2000) (positive : 0 < den) (h : m*2^places*den ≤ num) :
    m*2^places ≤ (round negative num den : Double).units := by
  obtain ⟨n,units,bound⟩ := double.exists_units hm deep
  rw [← units] at h ⊢
  have small : n ≤ double.infinity := by
    refine bound.trans ?_
    change (places+2)*2^52 ≤ (2^11-1)*2^52
    omega
  exact double.units_strictMono.monotone (double.le_nearest small positive h)

variable {i sum : Int} {count places : Nat}

theorem isFinite_or_isInfinite_ofInt (i : Int) :
    (ofInt i : Double).isFinite ∨ (ofInt i : Double).isInfinite := by
  rw [isFinite_iff,isInfinite_iff]
  exact (show (ofInt i : Double).magnitude.val ≤ double.infinity from min_le_right ..).lt_or_eq

theorem two_pow_add_scale (places : Nat) :
    2^(places+double.scale) = 2^places*double.unitsPerOne := by
  rw [pow_add,BinaryFormat.unitsPerOne]

theorem ofInt_le (places : Nat) (hm : m ≤ 2^53) (fits : places ≤ 900) (h : i.natAbs ≤ m*2^places) :
    (ofInt i : Double).isFinite ∧
      (ofInt i : Double).units ≤ m*2^places*double.unitsPerOne := by
  have scale : double.scale = 1074 := rfl
  rw [Nat.mul_assoc,← two_pow_add_scale]
  refine round_le _ _ hm (by omega) (by omega) one_pos ?_
  rw [two_pow_add_scale,← Nat.mul_assoc,Nat.mul_one]
  exact Nat.mul_le_mul_right _ h

theorem le_ofInt (hm : m ≤ 2^53) (h : m ≤ i.natAbs) :
    m*double.unitsPerOne ≤ (ofInt i : Double).units := by
  refine le_round _ double.scale hm (by decide) (by decide) one_pos ?_
  rw [Nat.mul_one]
  exact Nat.mul_le_mul_right _ h

theorem ofInt_le_two_pow (fits : places ≤ 900) (h : i.natAbs ≤ 2^places) :
    (ofInt i : Double).isFinite ∧ (ofInt i : Double).units ≤ 2^places*double.unitsPerOne := by
  have bound := ofInt_le (m := 1) (i := i) places (by decide) fits (by rwa [Nat.one_mul])
  rwa [Nat.one_mul] at bound

theorem unitsPerOne_le_ofInt (h : 0 < i.natAbs) : double.unitsPerOne ≤ (ofInt i : Double).units := by
  have bound := le_ofInt (m := 1) (by decide) h
  rwa [Nat.one_mul] at bound

theorem ofInt_exact (h : i.natAbs ≤ 2^53) : (ofInt i : Double).isFinite ∧
    (ofInt i : Double).units = i.natAbs*double.unitsPerOne := by
  obtain ⟨finite,upper⟩ := ofInt_le (i := i) 0 h (by decide) (by simp)
  rw [Nat.pow_zero,Nat.mul_one] at upper
  exact ⟨finite,le_antisymm upper (le_ofInt (m := i.natAbs) h le_rfl)⟩

def mean (sum : Int) (count : Nat) : Double := (ofInt sum).div (ofInt count)

theorem sign_mean (sum : Int) (count : Nat) :
    ((ofInt sum : Double).negative != (ofInt count : Double).negative) = decide (sum < 0) := by
  have sign : decide ((count : Int) < 0) = false := by simp
  simp only [ofInt,round,sign,Bool.bne_false]

theorem units_count_pos (some : 0 < count) : 0 < (ofInt count : Double).units :=
  double.unitsPerOne_pos.trans_le (unitsPerOne_le_ofInt (by omega))

theorem mean_of_isFinite (hs : (ofInt sum : Double).isFinite) (hc : (ofInt count : Double).isFinite)
    (some : 0 < count) : mean sum count = round (decide (sum < 0))
      ((ofInt sum : Double).units*double.unitsPerOne) (ofInt count : Double).units := by
  rw [mean,div_of_isFinite hs hc (units_count_pos some).ne',sign_mean]

theorem mean_of_isInfinite (hs : (ofInt sum : Double).isFinite)
    (hc : (ofInt count : Double).isInfinite) : mean sum count = zero (decide (sum < 0)) := by
  rw [mean,div_of_isInfinite hs hc,sign_mean]

theorem mean_negative (hs : (ofInt sum : Double).isFinite) (some : 0 < count) :
    (mean sum count).negative = decide (sum < 0) := by
  rcases isFinite_or_isInfinite_ofInt count with hc | hc
  · rw [mean_of_isFinite hs hc some,round]
  · rw [mean_of_isInfinite hs hc,zero]

theorem isFinite_zero (negative : Bool) : (zero negative : Double).isFinite := by
  cases negative <;> decide

/-- Where the sum and the count are doubles the quotient is rounded once. -/
theorem mean_of_few (hs : sum.natAbs ≤ 2^53) (some : 0 < count) (few : count ≤ 2^53) :
    mean sum count = round (decide (sum < 0)) (sum.natAbs*double.unitsPerOne*double.unitsPerOne)
      (count*double.unitsPerOne) := by
  obtain ⟨hs,sumUnits⟩ := ofInt_exact hs
  obtain ⟨hc,countUnits⟩ := ofInt_exact (i := count) (by omega)
  rw [mean_of_isFinite hs hc some,sumUnits,countUnits,Int.natAbs_natCast]

/-- Larger counts leave little of such a sum. -/
theorem mean_of_many (hs : sum.natAbs ≤ 2^53) (many : 2^53 ≤ count) : (mean sum count).isFinite ∧
    (mean sum count).units*2^53 ≤ sum.natAbs*double.unitsPerOne := by
  obtain ⟨hsum,sumUnits⟩ := ofInt_exact hs
  rcases isFinite_or_isInfinite_ofInt count with hc | hc
  · have power : 2^(double.scale-53)*2^53 = double.unitsPerOne := by
      rw [← pow_add,Nat.sub_add_cancel (by decide),BinaryFormat.unitsPerOne]
    have wide := le_ofInt (m := 2^53) (i := count) le_rfl (by omega)
    have positive := units_count_pos (show 0 < count by omega)
    have product : sum.natAbs*double.unitsPerOne*double.unitsPerOne =
        sum.natAbs*2^(double.scale-53)*(2^53*double.unitsPerOne) := by
      rw [← power]
      ring
    obtain ⟨finite,upper⟩ := round_le (decide (sum < 0)) (double.scale-53)
      hs (by decide) (by decide) positive (product.trans_le (Nat.mul_le_mul_left _ wide))
    rw [mean_of_isFinite hsum hc (by omega),sumUnits]
    refine ⟨finite,?_⟩
    calc _ ≤ sum.natAbs*2^(double.scale-53)*2^53 := Nat.mul_le_mul_right _ upper
      _ = sum.natAbs*double.unitsPerOne := by rw [Nat.mul_assoc,power]
  · have zeroUnits : (zero (decide (sum < 0)) : Double).units = 0 := double.units_zero
    rw [mean_of_isInfinite hsum hc,zeroUnits,Nat.zero_mul]
    exact ⟨isFinite_zero _,Nat.zero_le _⟩

theorem two_pow_le_unitsPerOne (h : places ≤ 1000) : 2^places ≤ double.unitsPerOne := by
  have scale : double.scale = 1074 := rfl
  exact Nat.pow_le_pow_right (by decide) (by omega)

theorem ofInt_near (finite : (ofInt i : Double).isFinite) :
    |((ofInt i : Double).units/double.unitsPerOne : ℚ)-i.natAbs| ≤ 1/2^53*i.natAbs := by
  have one : (double.unitsPerOne : ℚ) ≠ 0 := Nat.cast_ne_zero.mpr double.unitsPerOne_pos.ne'
  have large : i.natAbs*double.unitsPerOne = 0 ∨ 2^52*1 ≤ i.natAbs*double.unitsPerOne := by
    rcases Nat.eq_zero_or_pos i.natAbs with zero | positive
    · exact .inl (by rw [zero,Nat.zero_mul])
    · have wide := two_pow_le_unitsPerOne (show 52 ≤ 1000 by decide)
      exact .inr (wide.trans (Nat.le_mul_of_pos_left _ positive))
  have near := round_near finite Nat.one_pos large
  rwa [Nat.cast_mul,Nat.cast_one,div_one,mul_div_cancel_right₀ _ one] at near

theorem mean_large (hc : count ≤ 2^63) :
    (ofInt sum : Double).units*double.unitsPerOne = 0 ∨
      2^52*(ofInt count : Double).units ≤ (ofInt sum : Double).units*double.unitsPerOne := by
  rcases Nat.eq_zero_or_pos sum.natAbs with zero | positive
  · left
    rw [(ofInt_exact (i := sum) (by omega)).2,zero,Nat.zero_mul,Nat.zero_mul]
  · right
    have counted := (ofInt_le_two_pow (i := count) (show 63 ≤ 900 by decide) (by omega)).2
    calc 2^52*(ofInt count : Double).units ≤ 2^52*(2^63*double.unitsPerOne) :=
          Nat.mul_le_mul_left _ counted
      _ = 2^115*double.unitsPerOne := by ring
      _ ≤ (ofInt sum : Double).units*double.unitsPerOne := Nat.mul_le_mul_right _
          ((two_pow_le_unitsPerOne (by decide)).trans (unitsPerOne_le_ofInt positive))

theorem isFinite_mean_of_two_pow (hs : sum.natAbs ≤ 2^127) (some : 0 < count)
    (hc : (ofInt count : Double).isFinite) : (mean sum count).isFinite := by
  obtain ⟨sumFinite,upper⟩ := ofInt_le_two_pow (by decide) hs
  have bound : (ofInt sum : Double).units*double.unitsPerOne ≤
      1*2^(127+double.scale)*(ofInt count : Double).units := by
    rw [Nat.one_mul,two_pow_add_scale]
    exact Nat.mul_le_mul upper (unitsPerOne_le_ofInt (by omega))
  rw [mean_of_isFinite sumFinite hc some]
  exact (round_le _ _ (by decide) (by decide) (by decide) (units_count_pos some) bound).1

/-- Three roundings leave the quotient within four times the error of one. -/
theorem mean_near (hs : sum.natAbs ≤ 2^127) (some : 0 < count) (hc : count ≤ 2^63) :
    |((mean sum count).units/double.unitsPerOne : ℚ)-sum.natAbs/count| ≤
      4*(1/2^53)*(sum.natAbs/count) := by
  have sumFinite := (ofInt_le_two_pow (by decide) hs).1
  have countFinite := (ofInt_le_two_pow (i := count) (show 63 ≤ 900 by decide) (by omega)).1
  have finite := isFinite_mean_of_two_pow hs some countFinite
  have one : (double.unitsPerOne : ℚ) ≠ 0 := Nat.cast_ne_zero.mpr double.unitsPerOne_pos.ne'
  have countNear := ofInt_near countFinite
  rw [Int.natAbs_natCast] at countNear
  refine abs_sub_div_le (Nat.cast_nonneg _) (Nat.cast_pos.mpr some) (by norm_num) (by norm_num)
    (ofInt_near sumFinite) countNear ?_
  rw [mean_of_isFinite sumFinite countFinite some] at finite ⊢
  have near := round_near finite (units_count_pos some) (mean_large hc)
  rwa [Nat.cast_mul,div_right_comm,mul_div_cancel_right₀ _ one,
    ← div_div_div_cancel_right₀ one ((ofInt sum : Double).units : ℚ)] at near

end Binary
end ColumnarReport
