import Mathlib
import ColumnarReport.Proofs.Rounding

/-! The grid of the numbers of a format. Larger magnitudes are larger numbers: within a binade they
are a constant step apart, and the next binade begins where the last one ends. A quotient on the
grid is rounded to itself, and any other one to less than a step away. -/
namespace ColumnarReport

theorem abs_roundQuotient_sub_le (num : Nat) {den : Nat} (positive : 0 < den) :
    |(roundQuotient num den : ℚ)-num/den| ≤ 1/2 := by
  have parts := Nat.div_add_mod' num den
  have next : (num/den+1)*den = num/den*den+den := Nat.succ_mul _ _
  have both : 2*(roundQuotient num den*den) ≤ 2*num+den ∧
      2*num ≤ 2*(roundQuotient num den*den)+den := by
    have below := Nat.mod_lt num positive
    simp only [roundQuotient]
    split_ifs <;> omega
  have wide : (0 : ℚ) < den := by exact_mod_cast positive
  have quotient : (num : ℚ)/den*den = num := div_mul_cancel₀ _ wide.ne'
  have upper : (2*(roundQuotient num den*den) : ℚ) ≤ 2*num+den := by exact_mod_cast both.1
  have lower : (2*num : ℚ) ≤ 2*(roundQuotient num den*den)+den := by exact_mod_cast both.2
  rw [abs_sub_le_iff]
  constructor <;> refine le_of_mul_le_mul_right ?_ wide <;> linarith

theorem roundQuotient_mul (n : Nat) {den : Nat} (positive : 0 < den) :
    roundQuotient (n*den) den = n := by
  rw [roundQuotient,Nat.mul_div_cancel _ positive,Nat.mul_mod_left]
  simp [positive]

theorem roundQuotient_eq_zero {num den : Nat} (h : 2*num < den) : roundQuotient num den = 0 := by
  have small : num < den := by omega
  rw [roundQuotient,Nat.div_eq_of_lt small,Nat.mod_eq_of_lt small,if_pos h]

namespace BinaryFormat

variable (f : BinaryFormat)

theorem unitsPerOne_pos : 0 < f.unitsPerOne := Nat.two_pow_pos f.scale

theorem units_place (shift : Nat) {r : Nat} (low : shift = 0 ∨ 2^f.fractionBits ≤ r)
    (high : r < 2*2^f.fractionBits) :
    f.units (shift*2^f.fractionBits+r) = r*2^shift := by
  have positive : 0 < 2^f.fractionBits := Nat.two_pow_pos _
  have binade : (shift*2^f.fractionBits+r)/2^f.fractionBits = shift+r/2^f.fractionBits := by
    rw [Nat.add_comm,Nat.add_mul_div_right _ _ positive,Nat.add_comm]
  have place : (shift*2^f.fractionBits+r)%2^f.fractionBits = r%2^f.fractionBits := by
    rw [Nat.add_comm,Nat.add_mul_mod_self_right]
  change (if (shift*2^f.fractionBits+r)/2^f.fractionBits = 0
    then (shift*2^f.fractionBits+r)%2^f.fractionBits
    else (2^f.fractionBits+(shift*2^f.fractionBits+r)%2^f.fractionBits)
      *2^((shift*2^f.fractionBits+r)/2^f.fractionBits-1)) = _
  rw [binade,place]
  rcases Nat.lt_or_ge r (2^f.fractionBits) with first | later
  · obtain rfl : shift = 0 := low.resolve_right (by omega)
    rw [Nat.div_eq_of_lt first,Nat.mod_eq_of_lt first]
    simp
  · have quotient : r/2^f.fractionBits = 1 := Nat.div_eq_of_lt_le (by omega) (by omega)
    have remainder : 2^f.fractionBits+r%2^f.fractionBits = r := by
      rw [Nat.mod_eq_sub_mod later,Nat.mod_eq_of_lt (by omega)]
      omega
    rw [quotient,if_neg (by omega),remainder,Nat.add_sub_cancel]

theorem units_add (shift : Nat) {r : Nat} (low : shift = 0 ∨ 2^f.fractionBits ≤ r)
    (high : r ≤ 2*2^f.fractionBits) :
    f.units (shift*2^f.fractionBits+r) = r*2^shift := by
  rcases high.lt_or_eq with inside | rfl
  · exact f.units_place shift low inside
  · -- The end is the start of the next binade.
    have start : shift*2^f.fractionBits+2*2^f.fractionBits =
        (shift+1)*2^f.fractionBits+2^f.fractionBits := by ring
    have positive : 0 < 2^f.fractionBits := Nat.two_pow_pos _
    rw [start,f.units_place (shift+1) (.inr le_rfl) (by omega),Nat.pow_succ]
    ring

/-- The steps of a magnitude in its binade. -/
theorem exists_place (n : Nat) : ∃ shift r, n = shift*2^f.fractionBits+r ∧
    (shift = 0 ∨ 2^f.fractionBits ≤ r) ∧ r < 2*2^f.fractionBits := by
  have positive : 0 < 2^f.fractionBits := Nat.two_pow_pos _
  have parts := Nat.div_add_mod' n (2^f.fractionBits)
  have below := Nat.mod_lt n positive
  cases binade : n/2^f.fractionBits with
  | zero =>
    rw [binade] at parts
    exact ⟨0,n,by omega,.inl rfl,by omega⟩
  | succ shift =>
    rw [binade,Nat.succ_mul] at parts
    exact ⟨shift,2^f.fractionBits+n%2^f.fractionBits,by omega,.inr (by omega),by omega⟩

theorem units_strictMono : StrictMono f.units := by
  refine strictMono_nat_of_lt_succ fun n => ?_
  obtain ⟨shift,r,rfl,low,high⟩ := f.exists_place n
  rw [f.units_add shift low (by omega),Nat.add_assoc,
    f.units_add shift (low.imp_right fun h => by omega) (by omega)]
  exact Nat.mul_lt_mul_of_pos_right (Nat.lt_succ_self r) (Nat.two_pow_pos shift)

@[simp] theorem units_zero : f.units 0 = 0 := by
  simpa using f.units_place 0 (.inl rfl) (Nat.mul_pos two_pos (Nat.two_pow_pos _))

/-- The step to the magnitude before is not above the step to the next one, and it is a small part of
the magnitude, at most twice as small at the start of a binade as behind it. -/
theorem exists_step {n : Nat} (positive : 0 < n) : ∃ step, 0 < step ∧ f.units n = f.units (n-1)+step ∧
    f.units n+step ≤ f.units (n+1) ∧ f.units n ≤ 2*2^f.fractionBits*step := by
  obtain ⟨shift,r,rfl,low,high⟩ := f.exists_place n
  have units := f.units_place shift low high
  have next : f.units (shift*2^f.fractionBits+r+1) = r*2^shift+2^shift := by
    rw [Nat.add_assoc,f.units_add shift (low.imp_right (by omega)) (by omega),Nat.succ_mul]
  rw [units,next]
  by_cases inside : shift = 0 ∨ 2^f.fractionBits < r
  · have some : 0 < r := by
      rcases inside with rfl | later
      · simpa using positive
      · omega
    have before : f.units (shift*2^f.fractionBits+r-1) = (r-1)*2^shift := by
      rw [Nat.add_sub_assoc some,f.units_place shift (inside.imp_right (by omega)) (by omega)]
    refine ⟨2^shift,Nat.two_pow_pos _,?_,le_rfl,Nat.mul_le_mul_right _ (by omega)⟩
    rw [before,← Nat.succ_mul,Nat.succ_eq_add_one,Nat.sub_add_cancel some]
  · -- The magnitude before the start of a binade is the last one of the binade below.
    obtain ⟨first,start⟩ := not_or.mp inside
    obtain ⟨shift,rfl⟩ := Nat.exists_eq_succ_of_ne_zero first
    obtain rfl : r = 2^f.fractionBits := by omega
    have last : (shift+1)*2^f.fractionBits+2^f.fractionBits-1 =
        shift*2^f.fractionBits+(2*2^f.fractionBits-1) := by
      rw [Nat.succ_mul]
      omega
    have before : f.units ((shift+1)*2^f.fractionBits+2^f.fractionBits-1) =
        (2*2^f.fractionBits-1)*2^shift := by
      rw [last,f.units_place shift (.inr (by omega)) (by omega)]
    have double : 2^f.fractionBits*2^(shift+1) = 2*2^f.fractionBits*2^shift := by ring
    refine ⟨2^shift,Nat.two_pow_pos _,?_,?_,?_⟩
    · rw [before,double,← Nat.succ_mul,Nat.succ_eq_add_one,Nat.sub_add_cancel (by omega)]
    · exact Nat.add_le_add_left (Nat.pow_le_pow_right two_pos (Nat.le_succ shift)) _
    · exact double.le

variable {num den n : Nat}

theorem nearest_units (hn : n ≤ f.infinity) (positive : 0 < den) :
    f.nearest (f.units n*den) den = n := by
  obtain ⟨shift,r,rfl,low,high⟩ := f.exists_place n
  have units := f.units_place shift low high
  have log : (f.units (shift*2^f.fractionBits+r)).log2-f.fractionBits = shift := by
    rw [units]
    rcases low with rfl | later
    · rw [Nat.pow_zero,Nat.mul_one]
      have : r.log2 ≤ f.fractionBits := by
        rcases Nat.eq_zero_or_pos r with rfl | some
        · simp
        · have := (Nat.log2_lt some.ne').mpr (show r < 2^(f.fractionBits+1) by
            rw [Nat.pow_succ]
            omega)
          omega
      omega
    · have : (r*2^shift).log2 = f.fractionBits+shift := by
        have some : r*2^shift ≠ 0 :=
          Nat.mul_ne_zero (by have := Nat.two_pow_pos f.fractionBits; omega)
            (Nat.two_pow_pos shift).ne'
        rw [Nat.log2_eq_iff some,Nat.pow_add,Nat.add_right_comm,Nat.pow_add,Nat.pow_succ]
        constructor
        · exact Nat.mul_le_mul_right _ later
        · exact Nat.mul_lt_mul_of_pos_right (by omega) (Nat.two_pow_pos shift)
      omega
  have whole : roundQuotient (r*2^shift*den) (den*2^shift) = r := by
    have step : 0 < den*2^shift := Nat.mul_pos positive (Nat.two_pow_pos shift)
    have product : r*2^shift*den = r*(den*2^shift) := by ring
    rw [product,roundQuotient_mul _ step]
  rw [nearest,Nat.mul_div_cancel _ positive,log,units,whole]
  exact min_eq_left hn

theorem nearest_le (hn : n ≤ f.infinity) (positive : 0 < den) (h : num ≤ f.units n*den) :
    f.nearest num den ≤ n :=
  (f.nearest_mono den h).trans_eq (f.nearest_units hn positive)

theorem le_nearest (hn : n ≤ f.infinity) (positive : 0 < den) (h : f.units n*den ≤ num) :
    n ≤ f.nearest num den :=
  (f.nearest_units hn positive).symm.trans_le (f.nearest_mono den h)

/-- A number is rounded by half a step of its binade at most. Beyond the first binade the step is
small against the number. -/
theorem abs_units_nearest_sub_le (finite : f.nearest num den < f.infinity) (positive : 0 < den) :
    ∃ step : Nat, (step = 1 ∨ (2^f.fractionBits*step : ℚ) ≤ num/den) ∧
      |(f.units (f.nearest num den) : ℚ)-num/den| ≤ step/2 := by
  obtain ⟨shift,hshift⟩ : ∃ shift, (num/den).log2-f.fractionBits = shift := ⟨_,rfl⟩
  have rounded : f.nearest num den = shift*2^f.fractionBits+roundQuotient num (den*2^shift) := by
    rw [nearest,hshift] at finite ⊢
    exact min_eq_left_of_lt ((min_lt_iff.mp finite).resolve_right (lt_irrefl _))
  have low : shift = 0 ∨ 2^f.fractionBits ≤ roundQuotient num (den*2^shift) :=
    shift.eq_zero_or_pos.imp_right fun beyond => f.le_roundQuotient_of_log2 beyond hshift
  have high := f.roundQuotient_le_of_log2 hshift.le
  refine ⟨2^shift,?_,?_⟩
  · rcases shift.eq_zero_or_pos with rfl | beyond
    · exact .inl rfl
    · right
      calc (2^f.fractionBits*(2^shift : Nat) : ℚ)
          = (2^f.fractionBits*2^shift : Nat) := by push_cast; rfl
        _ ≤ (num/den : Nat) := Nat.cast_le.mpr (f.pow_le_of_log2 beyond hshift)
        _ ≤ num/den := Nat.cast_div_le
  · have step : (0 : ℚ) < (2^shift : Nat) := by exact_mod_cast Nat.two_pow_pos shift
    have half := abs_roundQuotient_sub_le num (Nat.mul_pos positive (Nat.two_pow_pos shift))
    have scaled : (num : ℚ)/den = num/(den*2^shift : Nat)*(2^shift : Nat) := by
      rw [Nat.cast_mul,div_mul_eq_div_div,div_mul_cancel₀ _ step.ne']
    rw [rounded,f.units_add shift low high,Nat.cast_mul,scaled,← sub_mul,abs_mul,abs_of_pos step]
    calc _ ≤ 1/2*((2^shift : Nat) : ℚ) := mul_le_mul_of_nonneg_right half step.le
      _ = (2^shift : Nat)/2 := by ring

theorem abs_units_nearest_sub_le_of_large (finite : f.nearest num den < f.infinity)
    (positive : 0 < den) (large : num = 0 ∨ 2^f.fractionBits*den ≤ num) :
    |(f.units (f.nearest num den) : ℚ)-num/den| ≤ 1/2^(f.fractionBits+1)*(num/den) := by
  rcases large with rfl | large
  · have zero : f.nearest 0 den = 0 := by simpa using f.nearest_units (Nat.zero_le _) positive
    simp [zero]
  · obtain ⟨step,small,near⟩ := f.abs_units_nearest_sub_le finite positive
    have wide : (0 : ℚ) < den := by exact_mod_cast positive
    have quotient : (2^f.fractionBits : ℚ) ≤ num/den := by
      rw [le_div_iff₀ wide]
      exact_mod_cast large
    have product : (2^f.fractionBits*step : ℚ) ≤ num/den := by
      rcases small with rfl | small
      · simpa using quotient
      · exact small
    have power : (0 : ℚ) < 2^f.fractionBits := by positivity
    refine near.trans ?_
    rw [pow_succ,one_div_mul_eq_div,le_div_iff₀ (by positivity)]
    linarith

/-- A whole number that the fraction holds, moved by enough places, is on the grid. -/
theorem exists_units {m : Nat} (h : m ≤ 2*2^f.fractionBits) {places : Nat}
    (deep : f.fractionBits ≤ places) :
    ∃ n, f.units n = m*2^places ∧ n ≤ (places+2)*2^f.fractionBits := by
  rcases Nat.eq_zero_or_pos m with rfl | positive
  · exact ⟨0,by simp,Nat.zero_le _⟩
  · obtain ⟨back,hback,low,high⟩ : ∃ back ≤ f.fractionBits,
        2^f.fractionBits ≤ m*2^back ∧ m*2^back ≤ 2*2^f.fractionBits := by
      rcases Nat.lt_or_ge m (2^f.fractionBits) with less | more
      · have log : m.log2 < f.fractionBits := (Nat.log2_lt positive.ne').mpr less
        have power : 2^f.fractionBits = 2^m.log2*2^(f.fractionBits-m.log2) := by
          rw [← Nat.pow_add,Nat.add_sub_cancel' log.le]
        refine ⟨f.fractionBits-m.log2,Nat.sub_le .., ?_,?_⟩
        · rw [power]
          exact Nat.mul_le_mul_right _ (Nat.log2_self_le positive.ne')
        · have below : m < 2*2^m.log2 := by
            rw [← Nat.pow_succ']
            exact Nat.lt_log2_self
          calc m*2^(f.fractionBits-m.log2) ≤ 2*2^m.log2*2^(f.fractionBits-m.log2) :=
                Nat.mul_le_mul_right _ below.le
            _ = 2*2^f.fractionBits := by rw [power,Nat.mul_assoc]
      · exact ⟨0,Nat.zero_le _,by simpa using more,by simpa using h⟩
    refine ⟨(places-back)*2^f.fractionBits+m*2^back,?_,?_⟩
    · rw [f.units_add _ (.inr low) high,Nat.mul_assoc,← Nat.pow_add,
        Nat.add_sub_cancel' (hback.trans deep)]
    · have := Nat.mul_le_mul_right (2^f.fractionBits) (Nat.sub_le places back)
      rw [Nat.add_mul]
      omega

end BinaryFormat

attribute [ext] Binary

namespace Binary

variable {f : BinaryFormat} {x : Binary f}

theorem isNaN_iff : x.isNaN ↔ f.infinity < x.magnitude := by
  simp [isNaN]

theorem isInfinite_iff : x.isInfinite ↔ x.magnitude.val = f.infinity := by
  simp [isInfinite]

theorem isFinite_iff : x.isFinite ↔ x.magnitude < f.infinity := by
  simp [isFinite]

theorem isNaN_of_isFinite (h : x.isFinite) : x.isNaN = false := by
  simpa [isNaN] using (isFinite_iff.mp h).le

theorem isInfinite_of_isFinite (h : x.isFinite) : x.isInfinite = false := by
  simpa [isInfinite] using (isFinite_iff.mp h).ne

end Binary
end ColumnarReport
