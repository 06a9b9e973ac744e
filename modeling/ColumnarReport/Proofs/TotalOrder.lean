import Mathlib
import ColumnarReport.Proofs.UnitGrid

/-! The total order of floating-point data, said by value: finite numbers come in the order of their
values with the negative zero before the positive one, and infinities and not-a-numbers stand
outside them on the side of their sign. It is the order of the keys that encodings are compared by. -/
namespace ColumnarReport

namespace Binary

variable {f : BinaryFormat} {x y : Binary f}

/-- Infinities are one step outside the finite numbers, and not-a-numbers are two. -/
def rung (x : Binary f) : Int :=
  let distance := if x.isNaN then 2 else if x.isInfinite then 1 else 0
  if x.negative then -distance else distance

/-- The total order of IEEE 754, strictly. Among not-a-numbers of one sign the larger payload is
further out. -/
inductive Precedes : Binary f → Binary f → Prop
  | rungs {x y : Binary f} (apart : x.rung < y.rung) : Precedes x y
  | values {x y : Binary f} (hx : x.isFinite) (hy : y.isFinite)
    (less : x.signedUnits < y.signedUnits) : Precedes x y
  | zeros : Precedes (zero true) (zero false)
  | payloads {x y : Binary f} (hx : x.isNaN) (hy : y.isNaN) (sign : x.negative = y.negative)
    (less : if x.negative then y.magnitude < x.magnitude else x.magnitude < y.magnitude) :
    Precedes x y

theorem orderKey_lt_of_rung_lt (h : x.rung < y.rung) : x.orderKey < y.orderKey := by
  simp only [rung,isNaN_iff,isInfinite_iff] at h
  unfold orderKey
  split_ifs at h ⊢ <;> omega

/-- Units tell all finite numbers apart but the two zeros. -/
theorem signedUnits_lt_iff : x.signedUnits < y.signedUnits ↔
    x.orderKey < y.orderKey ∧ ¬ (x.magnitude.val = 0 ∧ y.magnitude.val = 0) := by
  have less := f.units_strictMono.lt_iff_lt (a := x.magnitude) (b := y.magnitude)
  have more := f.units_strictMono.lt_iff_lt (a := y.magnitude) (b := x.magnitude)
  have zeroX := f.units_strictMono.lt_iff_lt (a := 0) (b := x.magnitude)
  have zeroY := f.units_strictMono.lt_iff_lt (a := 0) (b := y.magnitude)
  rw [f.units_zero] at zeroX zeroY
  simp only [signedUnits,units,orderKey]
  split_ifs <;> omega

theorem cases_of_rung_eq (h : x.rung = y.rung) :
    x.isFinite ∧ y.isFinite ∨
    x.negative = y.negative ∧ (x.isInfinite ∧ y.isInfinite ∨ x.isNaN ∧ y.isNaN) := by
  simp only [rung,isNaN_iff,isInfinite_iff] at h
  rw [isFinite_iff,isFinite_iff,isInfinite_iff,isInfinite_iff,isNaN_iff,isNaN_iff]
  cases signX : x.negative <;> cases signY : y.negative <;> rw [signX,signY] at h <;>
    simp only [↓reduceIte,Bool.false_eq_true,reduceCtorEq,false_and,or_false,true_and] at h ⊢ <;>
    split_ifs at h <;> omega

theorem precedes_iff : x.Precedes y ↔ x.orderKey < y.orderKey := by
  constructor
  · intro h
    cases h with
    | rungs apart => exact orderKey_lt_of_rung_lt apart
    | values hx hy less => exact (signedUnits_lt_iff.mp less).1
    | zeros => simp [orderKey,zero]
    | payloads hx hy sign less =>
      simp only [orderKey,← sign]
      split_ifs at less ⊢ <;> omega
  · intro less
    rcases lt_trichotomy x.rung y.rung with below | same | above
    · exact .rungs below
    · rcases cases_of_rung_eq same with ⟨hx,hy⟩ | ⟨sign,⟨hx,hy⟩ | ⟨hx,hy⟩⟩
      · by_cases zeros : x.magnitude.val = 0 ∧ y.magnitude.val = 0
        · obtain ⟨signX,signY⟩ : x.negative = true ∧ y.negative = false := by
            simp only [orderKey,zeros.1,zeros.2] at less
            cases signX : x.negative <;> cases signY : y.negative <;> simp [signX,signY] at less ⊢
          obtain rfl : x = zero true := Binary.ext signX (Fin.ext zeros.1)
          obtain rfl : y = zero false := Binary.ext signY (Fin.ext zeros.2)
          exact .zeros
        · exact .values hx hy (signedUnits_lt_iff.mpr ⟨less,zeros⟩)
      · rw [isInfinite_iff] at hx hy
        simp only [orderKey,sign,hx,hy,lt_irrefl] at less
      · refine .payloads hx hy sign ?_
        simp only [orderKey,← sign] at less
        split_ifs at less ⊢ <;> omega
    · exact (orderKey_lt_of_rung_lt above).asymm less |>.elim

end Binary
end ColumnarReport
