import Mathlib
import ColumnarReport.Proofs.TotalOrder

/-! Conversion into a wider format. Each number of the narrow format is a number of the wide one, so
nothing is rounded: values, signs, infinities and not-a-numbers stay, and so does the total order but
among not-a-numbers, whose payloads may change. -/
namespace ColumnarReport

open scoped Computing

structure BinaryFormat.Widens (f g : BinaryFormat) : Prop where
  quiet : 0 < f.fractionBits
  fraction : f.fractionBits ≤ g.fractionBits
  scale : f.scale+g.fractionBits ≤ g.scale
  exponent : 2^f.exponentBits+(g.scale-f.scale)+1 < 2^g.exponentBits

theorem BinaryFormat.single_widens_double : BinaryFormat.single.Widens .double :=
  ⟨by decide,by decide,by decide,by decide⟩

namespace BinaryFormat

variable {f g : BinaryFormat} {n : Nat}

theorem Widens.exists_units (w : f.Widens g) (finite : n < f.infinity) :
    ∃ m < g.infinity, g.units m = f.units n*2^(g.scale-f.scale) := by
  obtain ⟨shift,r,rfl,low,high⟩ := f.exists_place n
  have fractions : 2^f.fractionBits ≤ 2^g.fractionBits := Nat.pow_le_pow_right two_pos w.fraction
  have scale := w.scale
  have exponent := w.exponent
  have binade : shift < 2^f.exponentBits-1 :=
    Nat.lt_of_mul_lt_mul_right ((Nat.le_add_right _ r).trans_lt finite)
  have deep : g.fractionBits ≤ shift+(g.scale-f.scale) := by omega
  obtain ⟨m,units,bound⟩ := g.exists_units (m := r) (by omega) deep
  refine ⟨m,bound.trans_lt ?_,?_⟩
  · exact Nat.mul_lt_mul_of_pos_right (by omega) (Nat.two_pow_pos _)
  · rw [units,f.units_place shift low high,Nat.mul_assoc,← Nat.pow_add]

end BinaryFormat

namespace Binary

variable {f g : BinaryFormat} {x y : Binary f}

/-- The real number that a finite float stands for. -/
def value (x : Binary f) : ℚ := x.signedUnits/2^f.scale

theorem finite_or_infinite_or_nan (x : Binary f) : x.isFinite ∨ x.isInfinite ∨ x.isNaN := by
  rw [isFinite_iff,isInfinite_iff,isNaN_iff]
  exact lt_trichotomy _ _

@[simp] theorem negative_convert (x : Binary f) : (x.convert g).negative = x.negative := by
  unfold convert
  split_ifs <;> rfl

theorem convert_of_isFinite (h : x.isFinite) :
    x.convert g = round x.negative (x.units*g.unitsPerOne) f.unitsPerOne := by
  rw [convert,isNaN_of_isFinite h,isInfinite_of_isFinite h,if_neg Bool.false_ne_true,
    if_neg Bool.false_ne_true]

theorem isNaN_of_isInfinite (h : x.isInfinite) : x.isNaN = false := by
  simpa [isNaN] using (isInfinite_iff.mp h).le

theorem isInfinite_of_isNaN (h : x.isNaN) : x.isInfinite = false := by
  simpa [isInfinite] using (isNaN_iff.mp h).ne'

theorem convert_of_isInfinite (h : x.isInfinite) : x.convert g = infinite x.negative := by
  rw [convert,isNaN_of_isInfinite h,h,if_neg Bool.false_ne_true,if_pos rfl]

theorem magnitude_convert (w : f.Widens g) (h : x.isFinite) :
    (x.convert g).magnitude < g.infinity ∧
      (x.convert g).units = x.units*2^(g.scale-f.scale) := by
  obtain ⟨m,small,units⟩ := w.exists_units (isFinite_iff.mp h)
  have one : g.unitsPerOne = 2^(g.scale-f.scale)*f.unitsPerOne := by
    have := w.scale
    rw [BinaryFormat.unitsPerOne,BinaryFormat.unitsPerOne,← Nat.pow_add,Nat.sub_add_cancel (by omega)]
  have place : (x.convert g).magnitude.val = m := by
    rw [convert_of_isFinite h]
    change g.nearest (f.units x.magnitude*g.unitsPerOne) f.unitsPerOne = m
    rw [one,← Nat.mul_assoc,← units]
    exact g.nearest_units small.le f.unitsPerOne_pos
  refine ⟨place ▸ small,?_⟩
  change g.units (x.convert g).magnitude = _
  rw [place,units]
  rfl

theorem isFinite_convert (w : f.Widens g) (h : x.isFinite) : (x.convert g).isFinite :=
  isFinite_iff.mpr (magnitude_convert w h).1

theorem isInfinite_convert (h : x.isInfinite) : (x.convert g).isInfinite := by
  rw [convert_of_isInfinite h,isInfinite_iff]
  rfl

/-- The quiet bit makes the payload positive, and the payload fits below the sign. -/
theorem isNaN_convert (w : f.Widens g) (h : x.isNaN) : (x.convert g).isNaN := by
  set quiet := 2^(f.fractionBits-1) with hquiet
  set payload := ((x.magnitude-f.infinity)%quiet+quiet)*2^(g.fractionBits-f.fractionBits) with hpayload
  have fraction := w.fraction
  have positive : 0 < quiet := Nat.two_pow_pos _
  have some : 0 < payload := Nat.mul_pos (by omega) (Nat.two_pow_pos _)
  have fits : payload < 2^g.fractionBits := by
    have double : 2*quiet = 2^f.fractionBits := by
      rw [hquiet,← Nat.pow_succ',Nat.succ_eq_add_one,Nat.sub_add_cancel w.quiet]
    have below := Nat.mod_lt (x.magnitude-f.infinity) positive
    calc payload < 2^f.fractionBits*2^(g.fractionBits-f.fractionBits) :=
          Nat.mul_lt_mul_of_pos_right (by omega) (Nat.two_pow_pos _)
      _ = 2^g.fractionBits := by rw [← Nat.pow_add,Nat.add_sub_cancel' fraction]
  have range : g.infinity+2^g.fractionBits = g.magnitudes := by
    rw [BinaryFormat.infinity,BinaryFormat.magnitudes,Nat.pow_add,← Nat.succ_mul,Nat.succ_eq_add_one,
      Nat.sub_add_cancel (Nat.two_pow_pos _)]
  have magnitude : (x.convert g).magnitude.val = (g.infinity+payload)%g.magnitudes := by
    rw [convert,if_pos h]
  rw [isNaN_iff,magnitude,Nat.mod_eq_of_lt (by omega)]
  omega

theorem value_convert (w : f.Widens g) (h : x.isFinite) : (x.convert g).value = x.value := by
  have units := (magnitude_convert w h).2
  have scale := w.scale
  have power : (2 : ℚ)^g.scale = 2^(g.scale-f.scale)*2^f.scale := by
    rw [← pow_add,Nat.sub_add_cancel (by omega)]
  have signed : ((x.convert g).signedUnits : ℚ) = x.signedUnits*2^(g.scale-f.scale) := by
    simp only [signedUnits,negative_convert,units]
    split_ifs <;> push_cast <;> ring
  rw [value,value,signed,power]
  field_simp

/-- Floats of two formats that differ at most in the payload of a not-a-number. -/
structure Same (x : Binary f) (y : Binary g) : Prop where
  negative : x.negative = y.negative
  isNaN : x.isNaN = y.isNaN
  isInfinite : x.isInfinite = y.isInfinite
  value : x.isFinite → x.value = y.value

theorem same_convert (w : f.Widens g) (x : Binary f) : x.Same (x.convert g) := by
  rcases x.finite_or_infinite_or_nan with h | h | h
  · have finite := isFinite_convert w h
    exact ⟨(negative_convert x).symm,(isNaN_of_isFinite h).trans (isNaN_of_isFinite finite).symm,
      (isInfinite_of_isFinite h).trans (isInfinite_of_isFinite finite).symm,
      fun _ => (value_convert w h).symm⟩
  · have infinite := isInfinite_convert (g := g) h
    refine ⟨(negative_convert x).symm,?_,h.trans infinite.symm,fun finite => ?_⟩
    · rw [isNaN_of_isInfinite h,isNaN_of_isInfinite infinite]
    · cases h.symm.trans (isInfinite_of_isFinite finite)
  · have nan := isNaN_convert w h
    refine ⟨(negative_convert x).symm,h.trans nan.symm,?_,fun finite => ?_⟩
    · rw [isInfinite_of_isNaN h,isInfinite_of_isNaN nan]
    · cases h.symm.trans (isNaN_of_isFinite finite)

theorem orderKey_injective : Function.Injective (orderKey : Binary f → Int) := by
  intro x y h
  simp only [orderKey] at h
  cases signX : x.negative <;> cases signY : y.negative <;> rw [signX,signY] at h
  · exact Binary.ext (signX.trans signY.symm) (Fin.ext (by simpa using h))
  · simp at h
    omega
  · simp at h
    omega
  · exact Binary.ext (signX.trans signY.symm) (Fin.ext (by simpa using h))

theorem totalCompare_eq_iff : x.totalCompare y = .eq ↔ x = y := by
  rw [totalCompare,compare_eq_iff_eq,orderKey_injective.eq_iff]

theorem orderKey_lt_of_signs (hx : x.negative = true) (hy : y.negative = false) :
    x.orderKey < y.orderKey := by
  simp only [orderKey,hx,hy,if_true,Bool.false_eq_true,if_false]
  omega

theorem value_lt_value_iff : x.value < y.value ↔ x.signedUnits < y.signedUnits := by
  rw [value,value,div_lt_div_iff_of_pos_right (by positivity),Int.cast_lt]

namespace Same

variable {x' y' : Binary g}

theorem isFinite (h : x.Same x') (finite : x.isFinite) : x'.isFinite := by
  rcases x'.finite_or_infinite_or_nan with h' | h' | h'
  · exact h'
  · cases (h.isInfinite.trans h').symm.trans (isInfinite_of_isFinite finite)
  · cases (h.isNaN.trans h').symm.trans (isNaN_of_isFinite finite)

theorem rung (h : x.Same x') : x'.rung = x.rung := by
  rw [Binary.rung,Binary.rung,h.negative,h.isNaN,h.isInfinite]

/-- What comes first does so in the other format too. -/
theorem precedes (hx : x.Same x') (hy : y.Same y') (number : ¬ (x.isNaN ∧ y.isNaN))
    (h : x.Precedes y) : x'.Precedes y' := by
  cases h with
  | rungs apart => exact .rungs (by rwa [hx.rung,hy.rung])
  | values finiteX finiteY less =>
    refine .values (hx.isFinite finiteX) (hy.isFinite finiteY) ?_
    rwa [← value_lt_value_iff,← hx.value finiteX,← hy.value finiteY,value_lt_value_iff]
  | zeros => exact precedes_iff.mpr (orderKey_lt_of_signs hx.negative.symm hy.negative.symm)
  | payloads nanX nanY => exact (number ⟨nanX,nanY⟩).elim

theorem unique (hx : x.Same x') (hy : x.Same y') (number : x.isNaN = false) : x' = y' := by
  have sign : x'.negative = y'.negative := hx.negative.symm.trans hy.negative
  refine Binary.ext sign (Fin.ext ?_)
  rcases x.finite_or_infinite_or_nan with h | h | h
  · have value := (hx.value h).symm.trans (hy.value h)
    rw [Binary.value,Binary.value,div_left_inj' (by positivity),Int.cast_inj] at value
    refine g.units_strictMono.injective (?_ : x'.units = y'.units)
    simp only [signedUnits,sign] at value
    split_ifs at value <;> omega
  · have infiniteX := isInfinite_iff.mp (hx.isInfinite.symm.trans h)
    have infiniteY := isInfinite_iff.mp (hy.isInfinite.symm.trans h)
    exact infiniteX.trans infiniteY.symm
  · cases h.symm.trans number

/-- The format does not matter to comparisons, those of two not-a-numbers apart. -/
theorem totalCompare (hx : x.Same x') (hy : y.Same y') (number : ¬ (x.isNaN ∧ y.isNaN)) :
    x'.totalCompare y' = x.totalCompare y := by
  rw [Binary.totalCompare,Binary.totalCompare]
  rcases lt_trichotomy x.orderKey y.orderKey with less | same | more
  · have less' := precedes_iff.mp (precedes hx hy number (precedes_iff.mpr less))
    rw [compare_lt_iff_lt.mpr less,compare_lt_iff_lt.mpr less']
  · obtain rfl := orderKey_injective same
    obtain rfl := hx.unique hy (by simpa using number)
    rw [compare_eq_iff_eq.mpr rfl,compare_eq_iff_eq.mpr rfl]
  · have more' := precedes_iff.mp (precedes hy hx (mt And.symm number) (precedes_iff.mpr more))
    rw [compare_gt_iff_gt.mpr more,compare_gt_iff_gt.mpr more']

theorem eq_iff (hx : x.Same x') (hy : y.Same y') (number : ¬ (x.isNaN ∧ y.isNaN)) :
    x' = y' ↔ x = y := by
  rw [← totalCompare_eq_iff,totalCompare hx hy number,totalCompare_eq_iff]

end Same

end Binary
end ColumnarReport
