import Mathlib

/-! Decimal digits: texts of digits only, the number they stand for beside zeros and around a point, and
the digits that numbers are written with. -/
namespace ColumnarReport
namespace Digits

theorem digitChar_of_mem_toDigits {b n : Nat} (base : 1 < b) {c : Char} (h : c ∈ Nat.toDigits b n) :
    ∃ d < b, c = d.digitChar := by
  induction n using Nat.strong_induction_on with
  | _ n ih =>
    rw [Nat.toDigits_eq_if base] at h
    split_ifs at h with low
    · exact ⟨n,low,List.mem_singleton.mp h⟩
    · rcases List.mem_append.mp h with before | last
      · exact ih (n/b) (Nat.div_lt_self (by omega) base) before
      · exact ⟨n%b,Nat.mod_lt n (by omega),List.mem_singleton.mp last⟩

theorem digitChar_inj {n m : Nat} (hn : n < 16) (hm : m < 16) (h : n.digitChar = m.digitChar) : n = m := by
  have all : ∀ n < 16, ∀ m < 16, n.digitChar = m.digitChar → n = m := by decide
  exact all n hn m hm h

/-- The digits in a base up to sixteen determine the number. -/
theorem toDigits_inj {b n m : Nat} (base : 1 < b) (low : b ≤ 16)
    (h : Nat.toDigits b n = Nat.toDigits b m) : n = m := by
  induction n using Nat.strong_induction_on generalizing m with
  | _ n ih =>
    have hn := Nat.mod_lt n (show 0 < b by omega)
    have hm := Nat.mod_lt m (show 0 < b by omega)
    rw [Nat.toDigits_eq_if (n := n) base,Nat.toDigits_eq_if (n := m) base] at h
    split_ifs at h with one one' one'
    · exact digitChar_inj (by omega) (by omega) (List.singleton_inj.mp h)
    · rw [← List.nil_append [n.digitChar]] at h
      exact (Nat.toDigits_ne_nil (List.append_inj' h rfl).1.symm).elim
    · rw [← List.nil_append [m.digitChar]] at h
      exact (Nat.toDigits_ne_nil (List.append_inj' h rfl).1).elim
    · obtain ⟨before,last⟩ := List.append_inj' h rfl
      have quotient := ih (n/b) (Nat.div_lt_self (by omega) base) before
      have rest := digitChar_inj (by omega) (by omega) (List.singleton_inj.mp last)
      rw [← Nat.div_add_mod n b,← Nat.div_add_mod m b,quotient,rest]

def AllDigits (cs : List Char) : Prop := cs ≠ [] ∧ ∀ c ∈ cs, c.isDigit

variable {cs ds : List Char}

theorem AllDigits.notMem (h : AllDigits cs) {c : Char} (other : c.isDigit = false) : c ∉ cs :=
  fun mem => by simp [h.2 c mem] at other

theorem AllDigits.append (hc : AllDigits cs) (hd : ∀ d ∈ ds, d.isDigit) : AllDigits (cs++ds) := by
  refine ⟨by simp [hc.1],fun c mem => ?_⟩
  rcases List.mem_append.mp mem with h | h
  · exact hc.2 c h
  · exact hd c h

theorem allDigits_toDigits (n : Nat) : AllDigits (Nat.toDigits 10 n) :=
  ⟨Nat.toDigits_ne_nil,fun _ mem => Nat.isDigit_of_mem_toDigits (by decide) (by decide) mem⟩

theorem notMem_toDigits {c : Char} (other : c.isDigit = false) (n : Nat) : c ∉ Nat.toDigits 10 n :=
  (allDigits_toDigits n).notMem other

theorem allDigits_zero : AllDigits ['0'] := allDigits_toDigits 0

theorem head?_toDigits {n : Nat} (h : 0 < n) : (Nat.toDigits 10 n).head? ≠ some '0' := by
  induction n using Nat.strong_induction_on with
  | _ n ih =>
    rcases Nat.lt_or_ge n 10 with low | high
    · rw [Nat.toDigits_of_lt_base low]
      interval_cases n <;> decide
    · rw [Nat.toDigits_of_base_le (by decide) high,List.head?_append]
      have above := ih (n/10) (by omega) (by omega)
      cases head : (Nat.toDigits 10 (n/10)).head? with
      | none => exact (Nat.toDigits_ne_nil (List.head?_eq_none_iff.mp head)).elim
      | some c => simpa [head] using above

theorem getLast?_toDigits {n : Nat} (h : n%10 ≠ 0) : (Nat.toDigits 10 n).getLast? ≠ some '0' := by
  have digit : (n%10).digitChar ≠ '0' := by
    have low := Nat.mod_lt n (show 0 < 10 by decide)
    interval_cases n%10 <;> first | exact (h rfl).elim | decide
  rcases Nat.lt_or_ge n 10 with low | high
  · rw [Nat.toDigits_of_lt_base low,List.getLast?_singleton,← Nat.mod_eq_of_lt low]
    exact fun zero => digit (Option.some.inj zero)
  · rw [Nat.toDigits_of_base_le (by decide) high,List.getLast?_concat]
    exact fun zero => digit (Option.some.inj zero)

theorem isDigit_of_mem_zeros {n : Nat} {c : Char} (h : c ∈ List.replicate n '0') : c.isDigit := by
  rw [List.eq_of_mem_replicate h]
  rfl

theorem AllDigits.take (h : AllDigits cs) {k : Nat} (some : 0 < k) : AllDigits (cs.take k) :=
  ⟨by simp [h.1]; omega,fun c mem => h.2 c (List.mem_of_mem_take mem)⟩

theorem AllDigits.drop (h : AllDigits cs) {k : Nat} (inside : k < cs.length) : AllDigits (cs.drop k) :=
  ⟨by simp; omega,fun c mem => h.2 c (List.mem_of_mem_drop mem)⟩

theorem AllDigits.zeros_append (h : AllDigits cs) (n : Nat) : AllDigits (List.replicate n '0'++cs) := by
  refine ⟨by simp [h.1],fun c mem => ?_⟩
  rcases List.mem_append.mp mem with zero | digit
  · exact isDigit_of_mem_zeros zero
  · exact h.2 c digit

/-- Digits around a point are the digits without it, divided by a power of ten. -/
theorem ofDigitChars_point (cs ds : List Char) :
    (Nat.ofDigitChars 10 cs 0+Nat.ofDigitChars 10 ds 0/10^ds.length : ℚ) =
      Nat.ofDigitChars 10 (cs++ds) 0/10^ds.length := by
  have join : Nat.ofDigitChars 10 (cs++ds) 0 =
      10^ds.length*Nat.ofDigitChars 10 cs 0+Nat.ofDigitChars 10 ds 0 := by
    rw [Nat.ofDigitChars_append]
    exact Nat.ofDigitChars_eq_ofDigitChars_zero
  rw [join]
  push_cast
  field_simp

theorem ofDigitChars_zeros_append (n : Nat) (cs : List Char) :
    Nat.ofDigitChars 10 (List.replicate n '0'++cs) 0 = Nat.ofDigitChars 10 cs 0 := by
  rw [Nat.ofDigitChars_append,Nat.ofDigitChars_replicate_zero,Nat.mul_zero]

theorem ofDigitChars_append_zeros (cs : List Char) (n : Nat) :
    Nat.ofDigitChars 10 (cs++List.replicate n '0') 0 = 10^n*Nat.ofDigitChars 10 cs 0 := by
  rw [Nat.ofDigitChars_append,Nat.ofDigitChars_replicate_zero]

theorem toList_toString (i : Int) : (toString i).toList =
    (if i < 0 then ['-'] else [])++Nat.toDigits 10 i.natAbs := by
  cases i with
  | ofNat n =>
    rw [if_neg (by simp),List.nil_append]
    exact Nat.toList_repr
  | negSucc n =>
    rw [if_pos (Int.negSucc_lt_zero n)]
    change ("-"++(n+1).repr).toList = _
    rw [String.toList_append,Nat.toList_repr]
    rfl

end Digits
end ColumnarReport
