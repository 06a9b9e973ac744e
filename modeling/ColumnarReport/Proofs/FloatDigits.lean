import ColumnarReport.Cell
import ColumnarReport.Proofs.FloatText
import ColumnarReport.Proofs.ShortestDecimal

/-! The text of a finite float shows the digits of the shortest decimal that rounds to it, and no zeros
but those that the layout needs. It always has a point or an exponent, so it is the text of no integer. -/
namespace ColumnarReport

open Digits

namespace DecimalText

/-- The digits before the exponent, without the zeros in front of them and behind them. -/
def significant (cs : List Char) : List Char :=
  (((cut 'e' cs).1.filter Char.isDigit).dropWhile (· = '0')).rdropWhile (· = '0')

def HasFraction (cs : List Char) : Prop :=
  ∃ before c behind, cs = before ++ '.' :: c :: behind ∧ c.isDigit

def HasExponent (cs : List Char) : Prop :=
  ∃ before, ∃ p : Int, cs = before ++ 'e' :: (toString p).toList

variable {cs ds digits : List Char}

theorem HasFraction.append (before : List Char) (h : HasFraction cs) : HasFraction (before++cs) := by
  obtain ⟨first,c,behind,rfl,digit⟩ := h
  exact ⟨before++first,c,behind,by simp,digit⟩

theorem HasExponent.append (before : List Char) (h : HasExponent cs) : HasExponent (before++cs) := by
  obtain ⟨first,p,rfl⟩ := h
  exact ⟨before++first,p,by simp⟩

theorem hasFraction_of_point (cs : List Char) (h : AllDigits ds) : HasFraction (cs ++ '.' :: ds) := by
  obtain ⟨c,behind,rfl⟩ := List.exists_cons_of_ne_nil h.1
  exact ⟨cs,c,behind,rfl,h.2 c List.mem_cons_self⟩

/-- Neither a point nor an exponent is in the text of an integer. -/
theorem ne_integer (h : HasFraction cs ∨ HasExponent cs) (i : Int) : cs ≠ (toString i).toList := by
  rintro rfl
  rcases h with ⟨before,c,behind,text,-⟩ | ⟨before,p,text⟩
  · have point : '.' ∈ (toString i).toList := text ▸ by simp
    rw [toList_toString] at point
    split_ifs at point <;> simp [notMem_toDigits (c := '.') rfl] at point
  · have power : 'e' ∈ (toString i).toList := text ▸ by simp
    rw [toList_toString] at power
    split_ifs at power <;> simp [notMem_toDigits (c := 'e') rfl] at power

theorem dropWhile_zeros (h : cs.head? ≠ some '0') (n : Nat) :
    (List.replicate n '0'++cs).dropWhile (· = '0') = cs := by
  induction n with
  | zero =>
    cases cs with
    | nil => rfl
    | cons c cs => simpa using h
  | succ n ih => simpa [List.replicate_succ] using ih

theorem significant_of_zeros (first : digits.head? ≠ some '0') (last : digits.getLast? ≠ some '0')
    {a b : Nat} (h : (cut 'e' cs).1.filter Char.isDigit =
      List.replicate a '0'++(digits++List.replicate b '0')) (some : digits ≠ []) :
    significant cs = digits := by
  have front : (digits++List.replicate b '0').head? ≠ .some '0' := by
    rwa [List.head?_append_of_ne_nil _ some]
  have back : digits.reverse.head? ≠ .some '0' := by
    rwa [List.head?_reverse]
  rw [significant,h,dropWhile_zeros front,List.rdropWhile,List.reverse_append,List.reverse_replicate,
    dropWhile_zeros back,List.reverse_reverse]

theorem significant_minus (cs : List Char) : significant ('-' :: cs) = significant cs := by
  rw [significant,cut,if_neg (by decide),List.filter_cons_of_neg (by decide),significant]

end DecimalText

open DecimalText

namespace FloatStyle

variable {digits : List Char} {f : BinaryFormat} {n : Nat}

section

variable (h : AllDigits digits) (first : digits.head? ≠ some '0') (last : digits.getLast? ≠ some '0')

include h first last

theorem significant_plain (exponent : Int) (pointZero : Bool) :
    significant (plain digits exponent pointZero).toList = digits := by
  have power : 'e' ∉ digits := h.notMem rfl
  have own : digits.filter Char.isDigit = digits := List.filter_eq_self.mpr h.2
  rcases plain_cases digits exponent pointZero with
    ⟨n,-,text⟩ | ⟨k,n,-,-,-,-,text⟩ | ⟨k,-,text⟩ <;> rw [text]
  · refine significant_of_zeros first last (a := 0) (b := n+pointZero.toNat) ?_ h.1
    rw [cut_of_notMem (by cases pointZero <;> simp [power])]
    cases pointZero <;> simp [own,List.replicate_succ']
  · have before : 'e' ∉ digits.take k := fun mem => power (List.mem_of_mem_take mem)
    have behind : 'e' ∉ digits.drop k := fun mem => power (List.mem_of_mem_drop mem)
    refine significant_of_zeros first last (a := 0) (b := 0) ?_ h.1
    rw [cut_of_notMem (by simp [before,behind]),List.filter_append,List.filter_cons_of_neg (by decide),
      ← List.filter_append,List.take_append_drop]
    simpa using own
  · refine significant_of_zeros first last (a := k+1) (b := 0) ?_ h.1
    rw [cut_of_notMem (by simp [power])]
    simp [own,List.replicate_succ]

theorem significant_scientific (exponent : Int) :
    significant (scientific digits exponent).toList = digits := by
  have power : 'e' ∉ digits := h.notMem rfl
  have own : digits.filter Char.isDigit = digits := List.filter_eq_self.mpr h.2
  refine significant_of_zeros first last (a := 0) (b := 0) ?_ h.1
  obtain ⟨c,rest,rfl⟩ := List.exists_cons_of_ne_nil h.1
  cases rest with
  | nil =>
    have text : (scientific [c] exponent).toList = [c] ++ 'e' :: (toString exponent).toList := by
      simp [scientific]
    rw [text,cut_append power]
    simpa using own
  | cons d rest =>
    have text : (scientific (c :: d :: rest) exponent).toList =
        (c :: '.' :: d :: rest) ++ 'e' :: (toString exponent).toList := by
      simp [scientific]
    rw [text,cut_append (by simpa using power)]
    simpa [List.filter_cons] using own

end

theorem hasFraction_plain (h : AllDigits digits) (exponent : Int) :
    HasFraction (plain digits exponent true).toList := by
  rcases plain_cases digits exponent true with
    ⟨n,-,text⟩ | ⟨k,n,-,more,length,-,text⟩ | ⟨k,-,text⟩ <;> rw [text]
  · exact hasFraction_of_point _ allDigits_zero
  · exact hasFraction_of_point _ (h.drop (by omega))
  · exact hasFraction_of_point ['0'] (h.zeros_append k)

theorem hasExponent_scientific (digits : List Char) (exponent : Int) :
    HasExponent (scientific digits exponent).toList := by
  obtain ⟨mantissa,text⟩ : ∃ mantissa, scientific digits exponent = mantissa++"e"++toString exponent :=
    ⟨_,rfl⟩
  exact ⟨mantissa.toList,exponent,by simp [text]⟩

/-- Every layout shows the digits of a decimal without trailing zeros. -/
theorem significant_writeDecimal (s : FloatStyle) {d : Decimal} (h : d.digits%10 ≠ 0) :
    significant (s.writeDecimal d).toList = Nat.toDigits 10 d.digits := by
  have digits := allDigits_toDigits d.digits
  have first := head?_toDigits (show 0 < d.digits by omega)
  have last := getLast?_toDigits h
  rcases s.writeDecimal_eq_or d with layout | layout <;> rw [layout]
  · exact significant_plain digits first last _ _
  · exact significant_scientific digits first last _

theorem form_writeDecimal {s : FloatStyle} (point : s.pointZero) (d : Decimal) :
    HasFraction (s.writeDecimal d).toList ∨ HasExponent (s.writeDecimal d).toList := by
  rcases s.writeDecimal_eq_or d with layout | layout <;> rw [layout]
  · rw [point]
    exact .inl (hasFraction_plain (allDigits_toDigits _) _)
  · exact .inr (hasExponent_scientific _ _)

theorem significant_magnitudeText (s : FloatStyle) (finite : n < f.infinity) :
    significant (s.magnitudeText f n).toList =
      if n = 0 then [] else Nat.toDigits 10 (Decimal.shortest f s.tie n).digits := by
  rw [magnitudeText,if_neg finite.ne]
  split_ifs with zero point
  · rfl
  · rfl
  · exact s.significant_writeDecimal (Decimal.mod_digits_shortest s.tie (Nat.pos_of_ne_zero zero))

theorem form_magnitudeText {s : FloatStyle} (point : s.pointZero) (finite : n < f.infinity) :
    HasFraction (s.magnitudeText f n).toList ∨ HasExponent (s.magnitudeText f n).toList := by
  rw [magnitudeText,if_neg finite.ne,if_pos point]
  split_ifs
  · exact .inl (hasFraction_of_point ['0'] allDigits_zero)
  · exact form_writeDecimal point _

/-- No decimal that rounds to the magnitude has fewer digits than are written. -/
theorem length_significant_le (s : FloatStyle) (finite : n < f.infinity) {d : Decimal}
    (h : RoundsTo f n d.value) :
    (significant (s.magnitudeText f n).toList).length ≤ Decimal.digitCount d.digits := by
  rw [s.significant_magnitudeText finite]
  split_ifs with zero
  · exact Nat.zero_le _
  · exact Decimal.digitCount_shortest_le s.tie (Nat.pos_of_ne_zero zero) h

end FloatStyle

namespace Binary

variable {f : BinaryFormat} {x y : Binary f}

theorem toBits_inj (h : x.toBits = y.toBits) : x = y := by
  have hx := x.magnitude.isLt
  have hy := y.magnitude.isLt
  unfold toBits at h
  refine Binary.ext ?_ (Fin.ext ?_) <;> cases signX : x.negative <;> cases signY : y.negative <;>
    simp only [signX,signY,if_true,Bool.false_eq_true,if_false] at h ⊢ <;> omega

/-- What a text shows of a finite float: its sign, a number that rounds to it, no more digits than any
decimal that does, and that it stands for no integer. -/
structure ShownBy (x : Binary f) (cs : List Char) : Prop where
  sign : cs.head? = some '-' ↔ x.negative
  number : ∃ v, 0 ≤ v ∧ number? cs = some (signed x.negative v) ∧ f.IsNearest x.magnitude v
  fewest : ∀ d : Decimal, f.IsNearest x.magnitude d.value →
    (significant cs).length ≤ Decimal.digitCount d.digits
  form : HasFraction cs ∨ HasExponent cs
  notInteger : ∀ i : Int, cs ≠ (toString i).toList

theorem shownBy_write {s : FloatStyle} (point : s.pointZero) (finite : x.isFinite) :
    x.ShownBy (s.write x).toList := by
  have number := isNaN_of_isFinite finite
  have magnitude : x.magnitude.val < f.infinity := of_decide_eq_true finite
  have form := FloatStyle.form_magnitudeText point magnitude
  have unsigned := s.magnitudeText_ne_minus magnitude.le
  obtain ⟨v,read,rounds⟩ := s.exists_unsigned?_magnitudeText magnitude
  have fewest (d : Decimal) (h : f.IsNearest x.magnitude d.value) :=
    s.length_significant_le magnitude ((roundsTo_iff_isNearest d.value_nonneg).mpr h)
  rw [s.toList_write_of_number number]
  generalize (s.magnitudeText f x.magnitude).toList = cs at *
  obtain ⟨negative,n⟩ := x
  cases negative with
  | true =>
    refine ⟨by simp,⟨v,rounds.nonneg,?_,rounds.isNearest⟩,fun d h => ?_,?_,?_⟩
    · exact congrArg (Option.map _) read
    · exact (congrArg List.length (significant_minus cs)).trans_le (fewest d h)
    · exact form.imp (.append _) (.append _)
    · exact ne_integer (form.imp (.append _) (.append _))
  | false =>
    have first : cs.head? ≠ some '-' := fun minus => by
      obtain ⟨rest,rfl⟩ := List.head?_eq_some_iff.mp minus
      exact unsigned rest rfl
    exact ⟨by simpa using first,⟨v,rounds.nonneg,number?_of_unsigned read,rounds.isNearest⟩,fewest,form,
      ne_integer form⟩

end Binary

namespace Cell

/-- The text of a finite float shows it with the fewest digits, and the text of any float tells its bits,
not-a-numbers apart. -/
theorem floatText_exact (x : Double) :
    (x.isFinite → x.ShownBy (floatText x).toList) ∧
      ∀ y : Double, floatText x = floatText y ↔ x.toBits = y.toBits ∨ x.isNaN ∧ y.isNaN := by
  refine ⟨fun finite => Binary.shownBy_write rfl finite,fun y => ?_⟩
  have bits : x = y ↔ x.toBits = y.toBits := ⟨congrArg _,Binary.toBits_inj⟩
  rw [← bits]
  exact floatStyle.write_eq_iff

theorem floatText_exact_of_least :
    let x : Double := ⟨true,⟨1,by decide⟩⟩
    floatText x = "-5e-324" ∧ x.isFinite ∧ x.ShownBy "-5e-324".toList ∧
      floatText x ≠ floatText (.zero true) := by
  intro x
  have text : floatText x = "-5e-324" := by decide +kernel
  have finite : x.isFinite := by decide
  have shown := (floatText_exact x).1 finite
  rw [text] at shown
  have other : ¬ (x.toBits = (Binary.zero true : Double).toBits ∨
      x.isNaN ∧ (Binary.zero true : Double).isNaN) := by decide
  exact ⟨text,finite,shown,mt ((floatText_exact x).2 (.zero true)).mp other⟩

end Cell
end ColumnarReport
