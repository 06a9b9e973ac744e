import ColumnarReport.Proofs.ReadBack

/-! The text of a float tells it apart from every other one, the two zeros included; only
not-a-numbers have one text. A finite text is read as a number that rounds to the float, and the sign
is read before it. -/
namespace ColumnarReport

open DecimalText

namespace FloatStyle

variable (s : FloatStyle) {f : BinaryFormat} {n m : Nat}

/-- The text of a number without its sign. -/
def magnitudeText (f : BinaryFormat) (n : Nat) : String :=
  if n = f.infinity then "inf"
  else if n = 0 then (if s.pointZero then "0.0" else "0")
  else s.writeDecimal (Decimal.shortest f s.tie n)

theorem write_of_number {x : Binary f} (h : x.isNaN = false) :
    s.write x = (if x.negative then "-" else "")++s.magnitudeText f x.magnitude := by
  simp only [write,h,magnitudeText,Binary.isInfinite,Bool.false_eq_true,if_false,decide_eq_true_eq]

theorem toList_write_of_number {x : Binary f} (h : x.isNaN = false) : (s.write x).toList =
    (if x.negative then ['-'] else [])++(s.magnitudeText f x.magnitude).toList := by
  rw [s.write_of_number h,String.toList_append]
  cases x.negative <;> rfl

/-- The text of a finite magnitude is a number that rounds to it. -/
theorem exists_unsigned?_magnitudeText (finite : n < f.infinity) :
    ∃ v, unsigned? (s.magnitudeText f n).toList = some v ∧ RoundsTo f n v := by
  rw [magnitudeText,if_neg finite.ne]
  rcases Nat.eq_zero_or_pos n with rfl | positive
  · refine ⟨0,?_,.zero f⟩
    rw [if_pos rfl]
    cases s.pointZero <;> simp [unsigned?,cut,mantissa?,digits?,Nat.ofDigitChars]
  · rw [if_neg positive.ne']
    exact ⟨_,unsigned?_writeDecimal s _,Decimal.roundsTo_shortest s.tie positive⟩

theorem unsigned?_infinity : unsigned? (s.magnitudeText f f.infinity).toList = none := by
  rw [magnitudeText,if_pos rfl]
  simp [unsigned?,cut,mantissa?,digits?]

theorem magnitudeText_inj (hn : n ≤ f.infinity) (hm : m ≤ f.infinity)
    (h : s.magnitudeText f n = s.magnitudeText f m) : n = m := by
  have infinity := s.unsigned?_infinity (f := f)
  rcases hn.lt_or_eq with hn | rfl
  · obtain ⟨v,read,rounds⟩ := s.exists_unsigned?_magnitudeText hn
    rcases hm.lt_or_eq with hm | rfl
    · obtain ⟨w,read',rounds'⟩ := s.exists_unsigned?_magnitudeText hm
      rw [← h,read] at read'
      exact rounds.unique (Option.some.inj read' ▸ rounds')
    · rw [h,infinity] at read
      cases read
  · rcases hm.lt_or_eq with hm | rfl
    · obtain ⟨w,read,-⟩ := s.exists_unsigned?_magnitudeText hm
      rw [← h,infinity] at read
      cases read
    · rfl

theorem magnitudeText_ne_minus (hn : n ≤ f.infinity) (cs : List Char) :
    (s.magnitudeText f n).toList ≠ '-' :: cs := by
  intro h
  rcases hn.lt_or_eq with hn | rfl
  · obtain ⟨v,read,-⟩ := s.exists_unsigned?_magnitudeText hn
    rw [h,unsigned?_minus] at read
    cases read
  · rw [magnitudeText,if_pos rfl] at h
    cases h

theorem magnitude_le {x : Binary f} (h : x.isNaN = false) : x.magnitude ≤ f.infinity := by
  simpa [Binary.isNaN] using h

theorem eq_of_write_eq {x y : Binary f} (hx : x.isNaN = false) (hy : y.isNaN = false)
    (h : s.write x = s.write y) : x = y := by
  have notMinusX := s.magnitudeText_ne_minus (magnitude_le hx)
  have notMinusY := s.magnitudeText_ne_minus (magnitude_le hy)
  rw [← String.toList_inj,s.toList_write_of_number hx,s.toList_write_of_number hy] at h
  obtain ⟨sign,text⟩ : x.negative = y.negative ∧
      s.magnitudeText f x.magnitude = s.magnitudeText f y.magnitude := by
    rw [← String.toList_inj]
    cases signX : x.negative <;> cases signY : y.negative <;> rw [signX,signY] at h
    · exact ⟨rfl,by simpa using h⟩
    · exact (notMinusX _ (by simpa using h)).elim
    · exact (notMinusY _ (by simpa using h.symm)).elim
    · exact ⟨rfl,by simpa using h⟩
  exact Binary.ext sign (Fin.ext (s.magnitudeText_inj (magnitude_le hx) (magnitude_le hy) text))

theorem write_ne_nan {x : Binary f} (h : x.isNaN = false) : s.write x ≠ "NaN" := by
  intro same
  rw [← String.toList_inj,s.toList_write_of_number h] at same
  cases sign : x.negative <;> rw [sign] at same
  · have text : (s.magnitudeText f x.magnitude).toList = ['N','a','N'] := by simpa using same
    rcases (magnitude_le h).lt_or_eq with finite | infinite
    · obtain ⟨v,read,-⟩ := s.exists_unsigned?_magnitudeText finite
      rw [text] at read
      simp [unsigned?,cut,mantissa?,digits?] at read
    · rw [infinite,magnitudeText,if_pos rfl] at text
      simp at text
  · simp at same

/-- The text of a float determines it, not-a-numbers apart. -/
theorem write_eq_iff {x y : Binary f} : s.write x = s.write y ↔ x = y ∨ x.isNaN ∧ y.isNaN := by
  have nan {z : Binary f} (h : z.isNaN) : s.write z = "NaN" := by rw [write,if_pos h]
  constructor
  · intro h
    cases hx : x.isNaN <;> cases hy : y.isNaN
    · exact .inl (s.eq_of_write_eq hx hy h)
    · exact (s.write_ne_nan hx (h.trans (nan hy))).elim
    · exact (s.write_ne_nan hy (h.symm.trans (nan hx))).elim
    · exact .inr ⟨rfl,rfl⟩
  · rintro (rfl | ⟨hx,hy⟩)
    · rfl
    · rw [nan hx,nan hy]

end FloatStyle
end ColumnarReport
