import ColumnarReport.Number.Style
import ColumnarReport.Proofs.Digits
import ColumnarReport.Proofs.UnitGrid

/-! Decimal texts read as rational numbers: digits, perhaps with a point among them, perhaps with a
power of ten behind the letter e, perhaps with a sign. Whole numbers, positional and scientific
layouts of a decimal and numbers with two decimals are read as what they stand for. -/
namespace ColumnarReport
namespace DecimalText

open Digits

def cut (c : Char) : List Char → List Char × Option (List Char)
  | [] => ([],none)
  | d :: cs => if d = c then ([],some cs) else (d :: (cut c cs).1,(cut c cs).2)

def digits? (cs : List Char) : Option Nat :=
  if cs ≠ [] ∧ ∀ c ∈ cs, c.isDigit then some (Nat.ofDigitChars 10 cs 0) else none

def integer? : List Char → Option Int
  | '-' :: cs => (digits? cs).map Int.negOfNat
  | cs => (digits? cs).map Int.ofNat

def mantissa? (cs : List Char) : Option ℚ :=
  match cut '.' cs with
  | (whole,none) => (digits? whole).map (Nat.cast : Nat → ℚ)
  | (whole,some fraction) => do
    let n ← digits? whole
    let r ← digits? fraction
    some (n+r/10^fraction.length)

def unsigned? (cs : List Char) : Option ℚ :=
  match cut 'e' cs with
  | (mantissa,none) => mantissa? mantissa
  | (mantissa,some power) => do
    let m ← mantissa? mantissa
    let p ← integer? power
    some (m*10^p)

def number? : List Char → Option ℚ
  | '-' :: cs => (unsigned? cs).map (-·)
  | cs => unsigned? cs

theorem cut_of_notMem {c : Char} {cs : List Char} (h : c ∉ cs) : cut c cs = (cs,none) := by
  induction cs with
  | nil => rfl
  | cons d cs ih =>
    obtain ⟨other,rest⟩ := not_or.mp (mt List.mem_cons.mpr h)
    rw [cut,if_neg (Ne.symm other),ih rest]

theorem cut_append {c : Char} {cs : List Char} (h : c ∉ cs) (rest : List Char) :
    cut c (cs++c :: rest) = (cs,some rest) := by
  induction cs with
  | nil => simp [cut]
  | cons d cs ih =>
    obtain ⟨other,before⟩ := not_or.mp (mt List.mem_cons.mpr h)
    rw [List.cons_append,cut,if_neg (Ne.symm other),ih before]

variable {cs ds : List Char}

theorem digits?_of_allDigits (h : AllDigits cs) : digits? cs = some (Nat.ofDigitChars 10 cs 0) :=
  if_pos h

theorem integer?_of_allDigits (h : AllDigits cs) :
    integer? cs = some (Int.ofNat (Nat.ofDigitChars 10 cs 0)) := by
  have minus := h.notMem (c := '-') rfl
  unfold integer?
  split
  next => simp at minus
  next => rw [digits?_of_allDigits h,Option.map_some]

theorem mantissa?_of_whole (h : AllDigits cs) :
    mantissa? cs = some ((Nat.ofDigitChars 10 cs 0 : Nat) : ℚ) := by
  simp only [mantissa?,cut_of_notMem (h.notMem (c := '.') rfl),digits?_of_allDigits h,Option.map_some]

theorem mantissa?_of_point (hc : AllDigits cs) (hd : AllDigits ds) :
    mantissa? (cs ++ '.' :: ds) =
      some (Nat.ofDigitChars 10 cs 0+Nat.ofDigitChars 10 ds 0/10^ds.length : ℚ) := by
  simp only [mantissa?,cut_append (hc.notMem (c := '.') rfl),digits?_of_allDigits hc,
    digits?_of_allDigits hd]
  rfl

theorem unsigned?_of_notMem (h : 'e' ∉ cs) : unsigned? cs = mantissa? cs := by
  simp only [unsigned?,cut_of_notMem h]

theorem unsigned?_of_whole (h : AllDigits cs) :
    unsigned? cs = some ((Nat.ofDigitChars 10 cs 0 : Nat) : ℚ) := by
  rw [unsigned?_of_notMem (h.notMem rfl),mantissa?_of_whole h]

theorem notMem_point (hc : AllDigits cs) (hd : AllDigits ds) {c : Char} (other : c.isDigit = false)
    (point : c ≠ '.') : c ∉ cs ++ '.' :: ds := by
  simp [hc.notMem other,hd.notMem other,point]

/-- Digits around a point stand for the digits without it, divided by a power of ten. -/
theorem mantissa?_of_digits (hc : AllDigits cs) (hd : AllDigits ds) :
    mantissa? (cs ++ '.' :: ds) = some (Nat.ofDigitChars 10 (cs++ds) 0/10^ds.length : ℚ) := by
  rw [mantissa?_of_point hc hd,ofDigitChars_point]

theorem unsigned?_of_digits (hc : AllDigits cs) (hd : AllDigits ds) :
    unsigned? (cs ++ '.' :: ds) = some (Nat.ofDigitChars 10 (cs++ds) 0/10^ds.length : ℚ) := by
  rw [unsigned?_of_notMem (notMem_point hc hd rfl (by decide)),mantissa?_of_digits hc hd]

theorem unsigned?_of_power {m : ℚ} (h : 'e' ∉ cs) (mantissa : mantissa? cs = some m) {p : Int}
    (power : integer? ds = some p) : unsigned? (cs ++ 'e' :: ds) = some (m*10^p) := by
  simp only [unsigned?,cut_append h,mantissa,power]
  rfl

theorem integer?_toString (i : Int) : integer? (toString i).toList = some i := by
  have value := Nat.ofDigitChars_ten_toDigits (n := i.natAbs)
  rw [toList_toString]
  by_cases negative : i < 0
  · rw [if_pos negative,List.singleton_append,integer?,digits?_of_allDigits (allDigits_toDigits _),
      value,Option.map_some,Int.negOfNat_eq,Int.ofNat_eq_natCast]
    exact congrArg some (by omega)
  · rw [if_neg negative,List.nil_append,integer?_of_allDigits (allDigits_toDigits _),value]
    exact congrArg some (Int.natAbs_of_nonneg (by omega))

theorem unsigned?_minus (cs : List Char) : unsigned? ('-' :: cs) = none := by
  have minus (cs : List Char) : digits? ('-' :: cs) = none := if_neg (by simp)
  have mantissa (cs : List Char) : mantissa? ('-' :: cs) = none := by
    rw [mantissa?,cut,if_neg (by decide)]
    rcases (cut '.' cs).2 with _ | fraction <;> simp [minus]
  rw [unsigned?,cut,if_neg (by decide)]
  rcases (cut 'e' cs).2 with _ | power <;> simp [mantissa]

/-- A text without a sign is a number as it stands. -/
theorem number?_of_unsigned {q : ℚ} (h : unsigned? cs = some q) : number? cs = some q := by
  unfold number?
  split
  next => simp [unsigned?_minus] at h
  next => exact h

theorem number?_toString (i : Int) : number? (toString i).toList = some (i : ℚ) := by
  have value := Nat.ofDigitChars_ten_toDigits (n := i.natAbs)
  have digits := allDigits_toDigits i.natAbs
  have whole := unsigned?_of_whole digits
  rw [value] at whole
  rw [toList_toString]
  by_cases negative : i < 0
  · rw [if_pos negative,List.singleton_append,number?,whole,Option.map_some,Nat.cast_natAbs,
      abs_of_neg negative]
    simp
  · rw [if_neg negative,List.nil_append,number?_of_unsigned whole,
      Nat.cast_natAbs,abs_of_nonneg (not_lt.mp negative)]

end DecimalText

open DecimalText Digits

def signed (negative : Bool) (v : ℚ) : ℚ := if negative then -v else v

def Decimal.value (d : Decimal) : ℚ := d.digits*10^d.exponent

theorem Decimal.value_nonneg (d : Decimal) : 0 ≤ d.value := by
  unfold value
  positivity

namespace FloatStyle

variable {digits : List Char}

theorem toList_zeros (n : Nat) : (zeros n).toList = List.replicate n '0' := by
  simp [zeros]

theorem unsigned?_filled (h : AllDigits digits) (n : Nat) (pointZero : Bool) :
    unsigned? (digits++List.replicate n '0'++if pointZero then ['.','0'] else []) =
      some (Nat.ofDigitChars 10 digits 0*10^n : ℚ) := by
  have whole : AllDigits (digits++List.replicate n '0') := h.append fun _ => isDigit_of_mem_zeros
  have value : (Nat.ofDigitChars 10 (digits++List.replicate n '0') 0 : ℚ) =
      Nat.ofDigitChars 10 digits 0*10^n := by
    rw [ofDigitChars_append_zeros]
    push_cast
    exact mul_comm _ _
  cases pointZero with
  | false => rw [if_neg Bool.false_ne_true,List.append_nil,unsigned?_of_whole whole,value]
  | true =>
    have zero : Nat.ofDigitChars 10 ['0'] 0 = 0 := rfl
    rw [if_pos rfl,unsigned?_of_digits whole allDigits_zero,← ofDigitChars_point,value]
    simp [zero]

theorem unsigned?_pointed (h : AllDigits digits) {k : Nat} (some : 0 < k) (inside : k < digits.length) :
    unsigned? (digits.take k ++ '.' :: digits.drop k) =
      .some (Nat.ofDigitChars 10 digits 0/10^(digits.length-k) : ℚ) := by
  rw [unsigned?_of_digits (h.take some) (h.drop inside),List.take_append_drop,List.length_drop]

theorem unsigned?_led (h : AllDigits digits) (k : Nat) :
    unsigned? ('0' :: '.' :: (List.replicate k '0'++digits)) =
      some (Nat.ofDigitChars 10 digits 0/10^(k+digits.length) : ℚ) := by
  have value := ofDigitChars_zeros_append (k+1) digits
  rw [List.replicate_succ,List.cons_append] at value
  have read := unsigned?_of_digits allDigits_zero (h.zeros_append k)
  rwa [List.singleton_append,List.singleton_append,value,List.length_append,
    List.length_replicate] at read

/-- The point of a positional text stands behind the digits, among them or before them. -/
theorem plain_cases (digits : List Char) (exponent : Int) (pointZero : Bool) :
    (∃ n : Nat, exponent = n ∧ (plain digits exponent pointZero).toList =
      digits++List.replicate n '0'++if pointZero then ['.','0'] else []) ∨
    (∃ k n : Nat, 0 < k ∧ 0 < n ∧ digits.length = k+n ∧ exponent = -n ∧
      (plain digits exponent pointZero).toList = digits.take k ++ '.' :: digits.drop k) ∨
    ∃ k : Nat, exponent = -(k+digits.length : Nat) ∧
      (plain digits exponent pointZero).toList = '0' :: '.' :: (List.replicate k '0'++digits) := by
  unfold plain
  by_cases large : 0 ≤ exponent
  · obtain ⟨n,rfl⟩ := Int.eq_ofNat_of_zero_le large
    refine .inl ⟨n,rfl,?_⟩
    cases pointZero <;> simp [toList_zeros]
  · rw [if_neg large]
    by_cases point : 0 < (digits.length : Int)+exponent
    · obtain ⟨k,hk⟩ := Int.eq_ofNat_of_zero_le point.le
      refine .inr (.inl ⟨k,digits.length-k,by omega,by omega,by omega,by omega,?_⟩)
      rw [if_pos point,hk]
      simp
    · obtain ⟨k,hk⟩ := Int.eq_ofNat_of_zero_le (show 0 ≤ -((digits.length : Int)+exponent) by omega)
      refine .inr (.inr ⟨k,by omega,?_⟩)
      rw [if_neg point,hk]
      simp [toList_zeros]

theorem unsigned?_plain (h : AllDigits digits) (exponent : Int) (pointZero : Bool) :
    unsigned? (plain digits exponent pointZero).toList =
      some (Nat.ofDigitChars 10 digits 0*10^exponent : ℚ) := by
  rcases plain_cases digits exponent pointZero with
    ⟨n,power,text⟩ | ⟨k,n,some,more,length,power,text⟩ | ⟨k,power,text⟩
  · rw [text,unsigned?_filled h,power,zpow_natCast]
  · rw [text,unsigned?_pointed h some (by omega),power,zpow_neg,zpow_natCast,div_eq_mul_inv,
      show digits.length-k = n by omega]
  · rw [text,unsigned?_led h,power,zpow_neg,zpow_natCast,div_eq_mul_inv]

theorem unsigned?_scientific (h : AllDigits digits) (exponent : Int) :
    unsigned? (scientific digits exponent).toList =
      some (Nat.ofDigitChars 10 digits 0*10^(exponent-(digits.length-1)) : ℚ) := by
  obtain ⟨first,rest,rfl⟩ := List.exists_cons_of_ne_nil h.1
  have one : AllDigits [first] := ⟨by simp,by simpa using h.2 first (by simp)⟩
  cases rest with
  | nil =>
    have read := unsigned?_of_power (one.notMem rfl) (mantissa?_of_whole one) (integer?_toString exponent)
    simpa [scientific] using read
  | cons second rest =>
    have more : AllDigits (second :: rest) :=
      ⟨by simp,fun c mem => h.2 c (List.mem_cons_of_mem first mem)⟩
    have read := unsigned?_of_power (notMem_point one more rfl (by decide))
      (mantissa?_of_digits one more) (integer?_toString exponent)
    have power : exponent-(((first :: second :: rest).length : Int)-1) =
        exponent-((second :: rest).length : Nat) := by simp
    rw [power,zpow_sub₀ (by norm_num),zpow_natCast,mul_div_assoc',← div_mul_eq_mul_div]
    simpa [scientific] using read

theorem writeDecimal_eq_or (s : FloatStyle) (d : Decimal) :
    s.writeDecimal d = plain (Nat.toDigits 10 d.digits) d.exponent s.pointZero ∨
      s.writeDecimal d = scientific (Nat.toDigits 10 d.digits)
        ((Nat.toDigits 10 d.digits).length+d.exponent-1) := ite_eq_or_eq ..

/-- A decimal is read back from its text, whichever layout it has. -/
theorem unsigned?_writeDecimal (s : FloatStyle) (d : Decimal) :
    unsigned? (s.writeDecimal d).toList = some d.value := by
  have digits := allDigits_toDigits d.digits
  have value := Nat.ofDigitChars_ten_toDigits (n := d.digits)
  rcases s.writeDecimal_eq_or d with layout | layout
  · rw [layout,unsigned?_plain digits,value,Decimal.value]
  · rw [layout,unsigned?_scientific digits,value,Decimal.value]
    exact congrArg (fun e : Int => some ((d.digits : ℚ)*10^e)) (by omega)

end FloatStyle

namespace Binary

variable {f : BinaryFormat}

/-- The hundredths that are written of a number, without its sign. -/
def hundredths (x : Binary f) : Nat := roundQuotient (x.units*100) f.unitsPerOne

section

variable {x : Binary f} {k : Nat}

theorem hundredths_le (h : x.units ≤ k*f.unitsPerOne) : x.hundredths ≤ k*100 := by
  refine (roundQuotient_mono _ ?_).trans_eq (roundQuotient_mul (k*100) f.unitsPerOne_pos)
  have := Nat.mul_le_mul_right 100 h
  rwa [Nat.mul_right_comm] at this

theorem le_hundredths (h : k*f.unitsPerOne ≤ x.units) : k*100 ≤ x.hundredths := by
  refine (roundQuotient_mul (k*100) f.unitsPerOne_pos).symm.trans_le (roundQuotient_mono _ ?_)
  have := Nat.mul_le_mul_right 100 h
  rwa [Nat.mul_right_comm] at this

theorem abs_hundredths_sub_le (x : Binary f) :
    |(x.hundredths/100 : ℚ)-x.units/f.unitsPerOne| ≤ 1/200 := by
  have near := abs_roundQuotient_sub_le (x.units*100) f.unitsPerOne_pos
  change |(x.hundredths : ℚ)-(x.units*100 : Nat)/f.unitsPerOne| ≤ 1/2 at near
  rw [Nat.cast_mul,mul_div_right_comm,abs_sub_le_iff] at near
  push_cast at near
  rw [abs_sub_le_iff]
  constructor <;> linarith

end

/-- A whole number with its last two digits behind a point. -/
theorem unsigned?_hundredths (h : Nat) :
    unsigned? (Nat.toDigits 10 (h/100) ++ '.' :: (Nat.toDigits 10 (h/10%10)++Nat.toDigits 10 (h%10))) =
      some (h/100 : ℚ) := by
  have tenth : Nat.toDigits 10 (h/10%10) = [(h/10%10).digitChar] :=
    Nat.toDigits_of_lt_base (Nat.mod_lt _ (by decide))
  have last : Nat.toDigits 10 (h%10) = [(h%10).digitChar] :=
    Nat.toDigits_of_lt_base (Nat.mod_lt _ (by decide))
  have decimals : AllDigits (Nat.toDigits 10 (h/10%10)++Nat.toDigits 10 (h%10)) :=
    (allDigits_toDigits _).append (allDigits_toDigits _).2
  have value : Nat.ofDigitChars 10
      (Nat.toDigits 10 (h/100)++(Nat.toDigits 10 (h/10%10)++Nat.toDigits 10 (h%10))) 0 = h := by
    rw [Nat.ofDigitChars_append,Nat.ofDigitChars_append,
      Nat.ofDigitChars_eq_ofDigitChars_zero (l := Nat.toDigits 10 (h%10)),
      Nat.ofDigitChars_eq_ofDigitChars_zero (l := Nat.toDigits 10 (h/10%10))]
    simp only [Nat.ofDigitChars_ten_toDigits]
    rw [tenth,last]
    simp only [List.length_singleton]
    omega
  have read := unsigned?_of_digits (allDigits_toDigits (h/100)) decimals
  rw [value] at read
  rw [read,tenth,last]
  norm_num

theorem toList_twoDecimals {x : Binary f} (finite : x.isFinite) : x.twoDecimals.toList =
    (if x.negative then ['-'] else [])++(Nat.toDigits 10 (x.hundredths/100) ++ '.' ::
      (Nat.toDigits 10 (x.hundredths/10%10)++Nat.toDigits 10 (x.hundredths%10))) := by
  have notNaN := isNaN_of_isFinite finite
  have notInfinite := isInfinite_of_isFinite finite
  cases sign : x.negative <;> simp [twoDecimals,notNaN,notInfinite,sign,hundredths]

/-- A number with two decimals is read as its hundredths. -/
theorem number?_twoDecimals {x : Binary f} (finite : x.isFinite) :
    number? x.twoDecimals.toList = some (signed x.negative (x.hundredths/100)) := by
  have read := unsigned?_hundredths x.hundredths
  rw [toList_twoDecimals finite]
  cases x.negative with
  | true =>
    rw [if_pos rfl,List.singleton_append,number?,read]
    rfl
  | false =>
    rw [if_neg Bool.false_ne_true,List.nil_append,number?_of_unsigned read]
    rfl

end Binary
end ColumnarReport
