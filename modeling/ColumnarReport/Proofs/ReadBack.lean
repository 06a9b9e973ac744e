import ColumnarReport.Proofs.DecimalText

/-! The numbers that round to a magnitude lie between the midpoints to its two neighbours. No number
rounds to two magnitudes, and the decimal chosen for a magnitude rounds to it, however it is chosen
among the decimals that do. -/
namespace ColumnarReport

/-- A number lies between the midpoints around a magnitude, which belong to even magnitudes. -/
structure RoundsTo (f : BinaryFormat) (n : Nat) (v : ℚ) : Prop where
  low : ((f.units (n-1)+f.units n : Nat)/2^(f.scale+1) : ℚ) < v ∨
    v = (f.units (n-1)+f.units n : Nat)/2^(f.scale+1) ∧ n%2 = 0
  high : v < (f.units n+f.units (n+1) : Nat)/2^(f.scale+1) ∨
    v = (f.units n+f.units (n+1) : Nat)/2^(f.scale+1) ∧ n%2 = 0

namespace RoundsTo

variable {f : BinaryFormat} {n m : Nat} {v : ℚ}

/-- Where the intervals of two magnitudes touch, the magnitudes are neighbours, and one is odd. -/
theorem not_lt (h : RoundsTo f n v) (h' : RoundsTo f m v) : ¬ n < m := by
  intro less
  have lower := f.units_strictMono.monotone (show n ≤ m-1 by omega)
  have upper := f.units_strictMono.monotone (show n+1 ≤ m by omega)
  have wide : (0 : ℚ) < 2^(f.scale+1) := by positivity
  have order : ((f.units n+f.units (n+1) : Nat)/2^(f.scale+1) : ℚ) ≤
      (f.units (m-1)+f.units m : Nat)/2^(f.scale+1) :=
    div_le_div_of_nonneg_right (Nat.cast_le.mpr (by omega)) wide.le
  rcases h.high with inside | ⟨touch,even⟩
  · rcases h'.low with inside' | ⟨touch',-⟩ <;> linarith
  · rcases h'.low with inside' | ⟨touch',even'⟩
    · linarith
    · rw [touch,div_left_inj' wide.ne',Nat.cast_inj] at touch'
      have neighbours := f.units_strictMono.injective (show f.units (n+1) = f.units m by omega)
      omega

theorem unique (h : RoundsTo f n v) (h' : RoundsTo f m v) : n = m :=
  Nat.le_antisymm (Nat.le_of_not_lt (h'.not_lt h)) (Nat.le_of_not_lt (h.not_lt h'))

theorem units (positive : 0 < n) : RoundsTo f n (f.units n/2^f.scale) := by
  have before := f.units_strictMono (show n-1 < n by omega)
  have behind := f.units_strictMono (show n < n+1 by omega)
  have double : (f.units n/2^f.scale : ℚ) = (f.units n+f.units n : Nat)/2^(f.scale+1) := by
    rw [pow_succ]
    push_cast
    field_simp
    ring
  have wide : (0 : ℚ) < 2^(f.scale+1) := by positivity
  rw [double]
  exact ⟨.inl ((div_lt_div_iff_of_pos_right wide).mpr (Nat.cast_lt.mpr (by omega))),
    .inl ((div_lt_div_iff_of_pos_right wide).mpr (Nat.cast_lt.mpr (by omega)))⟩

theorem zero (f : BinaryFormat) : RoundsTo f 0 0 := by
  have behind := f.units_strictMono Nat.zero_lt_one
  rw [f.units_zero] at behind
  refine ⟨.inr ⟨by simp,rfl⟩,.inl (div_pos (Nat.cast_pos.mpr ?_) (by positivity))⟩
  rw [f.units_zero,Nat.zero_add]
  exact behind

end RoundsTo

namespace Decimal

variable {f : BinaryFormat} {d : Decimal} {n : Nat}

theorem value_eq (d : Decimal) :
    d.value = (d.digits*10^d.exponent.toNat : Nat)/(10^(-d.exponent).toNat : Nat) := by
  have power : (10 : ℚ)^d.exponent = 10^d.exponent.toNat/10^(-d.exponent).toNat := by
    rw [← zpow_natCast,← zpow_natCast,← zpow_sub₀ (by norm_num)]
    congr 1
    omega
  rw [value,power,mul_div_assoc']
  push_cast
  rfl

theorem compareDyadic_eq (d : Decimal) (num places : Nat) :
    d.compareDyadic num places = compare d.value (num/2^places : ℚ) := by
  have wide : (0 : ℚ) < (10^(-d.exponent).toNat : Nat)*2^places := by positivity
  calc d.compareDyadic num places
      = cmp (d.digits*10^d.exponent.toNat*2^places) (num*10^(-d.exponent).toNat) :=
        (cmp_eq_compare ..).symm
    _ = cmp ((d.digits*10^d.exponent.toNat*2^places : Nat) : ℚ) (num*10^(-d.exponent).toNat : Nat) :=
        (Nat.strictMono_cast.cmp_map_eq ..).symm
    _ = cmp (d.value*((10^(-d.exponent).toNat : Nat)*2^places))
          (num/2^places*((10^(-d.exponent).toNat : Nat)*2^places)) := by
        rw [value_eq]
        congr 1 <;> push_cast <;> field_simp
    _ = cmp d.value (num/2^places) := cmp_mul_pos_right wide ..
    _ = compare d.value (num/2^places : ℚ) := cmp_eq_compare ..

theorem readsBack_iff : d.readsBack f n ↔ RoundsTo f n d.value := by
  simp only [readsBack,compareDyadic_eq,Bool.and_eq_true,Bool.or_eq_true,decide_eq_true_eq,
    compare_gt_iff_gt,compare_lt_iff_lt,compare_eq_iff_eq]
  exact ⟨fun h => ⟨h.1,h.2⟩,fun h => ⟨h.low,h.high⟩⟩

theorem value_strip (fuel : Nat) (d : Decimal) : (strip fuel d).value = d.value := by
  induction fuel generalizing d with
  | zero => rfl
  | succ fuel ih =>
    rw [strip]
    split_ifs with zeros
    · have digits : (d.digits : ℚ) = (d.digits/10 : Nat)*10 := by
        exact_mod_cast (Nat.div_mul_cancel (Nat.dvd_of_mod_eq_zero zeros.2)).symm
      rw [ih,value,value,digits,zpow_add_one₀ (by norm_num)]
      ring
    · rfl

theorem readsBack_of_onGrid {tie : Tie} {exponent : Int} (h : onGrid f tie n exponent = some d) :
    d.readsBack f n := by
  simp only [onGrid] at h
  split at h
  next => cases h
  next below above => exact Option.some.inj h ▸ below
  next below above => exact Option.some.inj h ▸ above
  next below above =>
    split at h
    next => exact Option.some.inj h ▸ below
    next => exact Option.some.inj h ▸ above
    next => exact Option.some.inj h ▸ above
    next =>
      obtain rfl := Option.some.inj h
      split_ifs
      · exact below
      · exact above

/-- Whichever of the listed lengths is chosen, or none, the decimal reads back. -/
theorem roundsTo_shortest (tie : Tie) (positive : 0 < n) :
    RoundsTo f n (shortest f tie n).value := by
  rw [shortest,value_strip]
  generalize hfound : List.findSome? _ _ = found
  cases found with
  | some d =>
    obtain ⟨length,-,hd⟩ := List.exists_of_findSome?_eq_some hfound
    exact readsBack_iff.mp (readsBack_of_onGrid hd)
  | none =>
    have exact : Decimal.value ⟨f.units n*5^f.scale,-f.scale⟩ = f.units n/2^f.scale := by
      have ten : (10 : ℚ)^f.scale = 5^f.scale*2^f.scale := by rw [← mul_pow]; norm_num
      rw [value,zpow_neg,zpow_natCast,ten]
      push_cast
      field_simp
    rw [Option.getD_none,exact]
    exact .units positive

end Decimal
end ColumnarReport
