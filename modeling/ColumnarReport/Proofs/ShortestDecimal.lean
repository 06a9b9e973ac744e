import ColumnarReport.Proofs.NearestValue

/-! The decimal chosen for a magnitude has the fewest digits of all decimals that round to it. A decimal
of one more or one less power of ten has a power of ten between it and the number, which has one
digit; one of the same power is on a grid, on which a neighbour of the number is nearer. The grids that
are searched are fine enough for every format. -/
namespace ColumnarReport

theorem RoundsTo.between {f : BinaryFormat} {n : Nat} {u v w : ℚ} (hu : RoundsTo f n u)
    (hw : RoundsTo f n w) (low : u ≤ v) (high : v ≤ w) : RoundsTo f n v := by
  constructor
  · rcases low.lt_or_eq with less | rfl
    · left
      rcases hu.low with beyond | ⟨middle,-⟩ <;> linarith
    · exact hu.low
  · rcases high.lt_or_eq with less | rfl
    · left
      rcases hw.high with below | ⟨middle,-⟩ <;> linarith
    · exact hw.high

theorem RoundsTo.pos {f : BinaryFormat} {n : Nat} {v : ℚ} (h : RoundsTo f n v) (positive : 0 < n) :
    0 < v := by
  have number := f.valueOf_strictMono positive
  have before := f.valueOf_nonneg (n-1)
  rw [f.valueOf_zero] at number
  have low := h.low
  rw [f.midpoint_eq] at low
  rcases low with beyond | ⟨middle,-⟩ <;> linarith

theorem RoundsTo.nonneg {f : BinaryFormat} {n : Nat} {v : ℚ} (h : RoundsTo f n v) : 0 ≤ v := by
  rcases Nat.eq_zero_or_pos n with rfl | positive
  · rcases h.low with beyond | ⟨zero,-⟩
    · exact le_trans (by positivity) beyond.le
    · exact zero ▸ by positivity
  · exact (h.pos positive).le

namespace Decimal

theorem digitCount_pos (n : Nat) : 0 < digitCount n := Nat.length_toDigits_pos

theorem digitCount_le_iff {n k : Nat} (h : 0 < k) : digitCount n ≤ k ↔ n < 10^k :=
  Nat.length_toDigits_le_iff (by decide) h

theorem lt_pow_digitCount (n : Nat) : n < 10^digitCount n :=
  (digitCount_le_iff (digitCount_pos n)).mp le_rfl

theorem pow_le_of_digitCount {n : Nat} (h : 0 < n) : 10^(digitCount n-1) ≤ n := by
  by_contra less
  rcases Nat.eq_zero_or_pos (digitCount n-1) with one | more
  · rw [one] at less
    omega
  · have := (digitCount_le_iff more).mpr (not_le.mp less)
    omega

variable {num den : Nat}

theorem magnitude_bounds (hn : 0 < num) (hd : 0 < den) :
    (10 : ℚ)^(magnitude num den-1) ≤ num/den ∧ (num/den : ℚ) < 10^magnitude num den := by
  have wide : (0 : ℚ) < den := Nat.cast_pos.mpr hd
  unfold magnitude
  split_ifs with whole dead
  · have quotient : 0 < num/den := Nat.div_pos whole hd
    have count := digitCount_pos (num/den)
    have low := pow_le_of_digitCount quotient
    have high := lt_pow_digitCount (num/den)
    rw [Nat.le_div_iff_mul_le hd] at low
    rw [Nat.div_lt_iff_lt_mul hd] at high
    rw [← Nat.cast_pred count,zpow_natCast,zpow_natCast,le_div_iff₀ wide,div_lt_iff₀ wide]
    exact ⟨by exact_mod_cast low,by exact_mod_cast high⟩
  · omega
  · have quotient : 0 < (den-1)/num := Nat.div_pos (by omega) hn
    have count := digitCount_pos ((den-1)/num)
    have low := pow_le_of_digitCount quotient
    have high := lt_pow_digitCount ((den-1)/num)
    rw [Nat.le_div_iff_mul_le hn] at low
    rw [Nat.div_lt_iff_lt_mul hn] at high
    have below : 10^(digitCount ((den-1)/num)-1)*num < den := by omega
    have above : den ≤ 10^digitCount ((den-1)/num)*num := by omega
    have first : (1 : Int)-digitCount ((den-1)/num)-1 = -(digitCount ((den-1)/num) : Nat) := by ring
    have second : (1 : Int)-digitCount ((den-1)/num) = -(digitCount ((den-1)/num)-1 : Nat) := by
      rw [Nat.cast_pred count]
      ring
    rw [first,second,zpow_neg,zpow_neg,zpow_natCast,zpow_natCast,inv_eq_one_div,inv_eq_one_div,
      div_le_div_iff₀ (by positivity) wide,div_lt_div_iff₀ wide (by positivity),one_mul,
      mul_comm (num : ℚ),mul_comm (num : ℚ)]
    exact ⟨by exact_mod_cast above,by exact_mod_cast below⟩

/-! ### Grids -/

theorem value_mk_le_iff {i j : Nat} (e : Int) :
    (⟨i,e⟩ : Decimal).value ≤ (⟨j,e⟩ : Decimal).value ↔ i ≤ j := by
  rw [value,value,mul_le_mul_iff_left₀ (by positivity),Nat.cast_le]

theorem neighbours_eq (num places : Nat) (e : Int) : ∃ below,
    neighbours num places e = (⟨below,e⟩,⟨below+1,e⟩) ∧
      (⟨below,e⟩ : Decimal).value ≤ num/2^places ∧ num/2^places < (⟨below+1,e⟩ : Decimal).value := by
  have wide : 0 < 2^places*10^e.toNat := Nat.mul_pos (Nat.two_pow_pos _) (Nat.pow_pos (by decide))
  have low := Nat.div_mul_le_self (num*10^(-e).toNat) (2^places*10^e.toNat)
  have high := Nat.lt_mul_div_succ (num*10^(-e).toNat) wide
  refine ⟨_,rfl,?_,?_⟩ <;> simp only [value_eq] <;>
    generalize num*10^(-e).toNat/(2^places*10^e.toNat) = below at low high ⊢
  · have low : below*10^e.toNat*2^places ≤ num*10^(-e).toNat := by linarith
    rw [div_le_div_iff₀ (by positivity) (by positivity)]
    exact_mod_cast low
  · have high : num*10^(-e).toNat < (below+1)*10^e.toNat*2^places := by linarith
    rw [div_lt_div_iff₀ (by positivity) (by positivity)]
    exact_mod_cast high

variable {f : BinaryFormat} {n : Nat} {tie : Tie} {d : Decimal} {e : Int}

/-- A decimal that reads back is found among the neighbours on its grid. -/
theorem onGrid_isSome {j : Nat} (positive : 0 < n) (h : RoundsTo f n (⟨j,e⟩ : Decimal).value) :
    (onGrid f tie n e).isSome := by
  obtain ⟨below,grid,low,high⟩ := neighbours_eq (f.units n) f.scale e
  have number := RoundsTo.units (f := f) positive
  simp only [onGrid,grid]
  have reads : (⟨below,e⟩ : Decimal).readsBack f n ∨ (⟨below+1,e⟩ : Decimal).readsBack f n := by
    rw [readsBack_iff,readsBack_iff]
    rcases Nat.lt_or_ge below j with above | under
    · right
      exact number.between h high.le ((value_mk_le_iff e).mpr above)
    · left
      exact h.between number ((value_mk_le_iff e).mpr under) low
  split
  next low high => simp [low,high] at reads
  next => rfl
  next => rfl
  next => split <;> rfl

theorem eq_neighbour_of_onGrid (h : onGrid f tie n e = some d) :
    ∃ below, (⟨below,e⟩ : Decimal).value ≤ f.units n/2^f.scale ∧
      (d = ⟨below,e⟩ ∨ d = ⟨below+1,e⟩) := by
  obtain ⟨below,grid,low,high⟩ := neighbours_eq (f.units n) f.scale e
  simp only [onGrid,grid] at h
  refine ⟨below,low,?_⟩
  split at h
  next => cases h
  next => exact .inl (Option.some.inj h).symm
  next => exact .inr (Option.some.inj h).symm
  next =>
    split at h
    next => exact .inl (Option.some.inj h).symm
    next => exact .inr (Option.some.inj h).symm
    next => exact .inr (Option.some.inj h).symm
    next =>
      split_ifs at h
      · exact .inl (Option.some.inj h).symm
      · exact .inr (Option.some.inj h).symm

def top (f : BinaryFormat) (n : Nat) : Int := magnitude (f.units n) f.unitsPerOne

theorem top_bounds (positive : 0 < n) :
    (10 : ℚ)^(top f n-1) ≤ f.units n/2^f.scale ∧ (f.units n/2^f.scale : ℚ) < 10^top f n := by
  have units : 0 < f.units n := f.units_zero ▸ f.units_strictMono positive
  have bounds := magnitude_bounds units f.unitsPerOne_pos
  rwa [BinaryFormat.unitsPerOne,Nat.cast_pow,Nat.cast_ofNat] at bounds

/-- A decimal on the grid of so many digits has no more of them, unless it is a power of ten. -/
theorem digits_le_of_onGrid {k : Nat} (positive : 0 < n) (h : onGrid f tie n (top f n-k) = some d) :
    d.digits ≤ 10^k := by
  obtain ⟨below,low,neighbour⟩ := eq_neighbour_of_onGrid h
  have high := low.trans_lt (top_bounds positive).2
  have power : (10 : ℚ)^top f n = (10^k : Nat)*10^(top f n-k) := by
    rw [Nat.cast_pow,Nat.cast_ofNat,← zpow_natCast,← zpow_add₀ (by norm_num)]
    congr 1
    ring
  rw [power,value,mul_lt_mul_iff_left₀ (by positivity),Nat.cast_lt] at high
  rcases neighbour with rfl | rfl
  · exact high.le
  · exact high

/-- A decimal has the power of ten of its first digit. -/
theorem value_bounds (h : 0 < d.digits) :
    (10 : ℚ)^((digitCount d.digits : Int)-1+d.exponent) ≤ d.value ∧
      d.value < 10^((digitCount d.digits : Int)+d.exponent) := by
  have count := digitCount_pos d.digits
  have low := pow_le_of_digitCount h
  have high := lt_pow_digitCount d.digits
  rw [zpow_add₀ (by norm_num),zpow_add₀ (by norm_num),value,← Nat.cast_pred count,zpow_natCast,
    zpow_natCast]
  constructor
  · refine mul_le_mul_of_nonneg_right ?_ (by positivity)
    exact_mod_cast low
  · refine mul_lt_mul_of_pos_right ?_ (by positivity)
    exact_mod_cast high

theorem value_one (e : Int) : (⟨1,e⟩ : Decimal).value = 10^e := by
  simp [value]

theorem value_ten (e : Int) : (⟨10,e-1⟩ : Decimal).value = 10^e := by
  rw [value,zpow_sub_one₀ (by norm_num)]
  push_cast
  field_simp

theorem digits_pos (positive : 0 < n) (h : RoundsTo f n d.value) : 0 < d.digits := by
  by_contra none
  have zero : d.value = 0 := by simp [value,Nat.eq_zero_of_not_pos none]
  exact (h.pos positive).ne' zero

/-- A decimal that reads back shows one of no more digits on the grids below the magnitude. -/
theorem exists_onGrid_of_roundsTo (tie : Tie) (positive : 0 < n) (h : RoundsTo f n d.value) :
    ∃ length < digitCount d.digits, (onGrid f tie n (top f n-(length+1 : Nat))).isSome := by
  have count := digitCount_pos d.digits
  have number := RoundsTo.units (f := f) positive
  obtain ⟨low,high⟩ := value_bounds (digits_pos positive h)
  obtain ⟨first,past⟩ := top_bounds (f := f) positive
  have order {a b : Int} : (10 : ℚ)^a ≤ 10^b ↔ a ≤ b := zpow_le_zpow_iff_right₀ (by norm_num)
  rcases lt_trichotomy ((digitCount d.digits : Int)+d.exponent) (top f n) with less | same | more
  · -- The power of ten below the number lies between the decimal and the number.
    refine ⟨0,count,onGrid_isSome (j := 1) positive ?_⟩
    rw [value_one]
    exact h.between number (high.le.trans (order.mpr (by simp; omega))) first
  · refine ⟨digitCount d.digits-1,by omega,onGrid_isSome (j := d.digits) positive ?_⟩
    have grid : top f n-(digitCount d.digits-1+1 : Nat) = d.exponent := by omega
    rwa [grid]
  · -- The power of ten above the number lies between the number and the decimal.
    refine ⟨0,count,onGrid_isSome (j := 10) positive ?_⟩
    have ten := value_ten (top f n)
    rw [show top f n-(0+1 : Nat) = top f n-1 by simp,ten]
    exact number.between h past.le ((order.mpr (by omega)).trans low)

/-- A number that is less than half a step from the number of a magnitude rounds to it. -/
theorem roundsTo_of_near {step : Nat} {v : ℚ} (before : f.units n = f.units (n-1)+step)
    (behind : f.units n+step ≤ f.units (n+1))
    (near : |v-f.units n/2^f.scale| < (step/2^f.scale)/2) : RoundsTo f n v := by
  have low : (f.units n/2^f.scale : ℚ) = f.units (n-1)/2^f.scale+step/2^f.scale := by
    rw [before,Nat.cast_add,add_div]
  have high : (f.units n/2^f.scale+step/2^f.scale : ℚ) ≤ f.units (n+1)/2^f.scale := by
    rw [← add_div]
    exact div_le_div_of_nonneg_right (by exact_mod_cast behind) (by positivity)
  obtain ⟨above,below⟩ := abs_lt.mp near
  constructor <;> left <;> rw [f.midpoint_eq,BinaryFormat.valueOf,BinaryFormat.valueOf] <;> linarith

theorem two_pow_lt_ten_pow (k : Nat) : 2*2^k < 10^(k/3+1) := by
  calc 2*2^k = 2^(k+1) := (Nat.pow_succ').symm
    _ ≤ 2^(3*(k/3+1)) := Nat.pow_le_pow_right two_pos (by omega)
    _ = 8^(k/3+1) := by rw [Nat.pow_mul]
    _ < 10^(k/3+1) := Nat.pow_lt_pow_left (by decide) (by omega)

/-- The finest of the listed grids is finer than the steps to both neighbours. -/
theorem grid_lt_step {step : Nat} (positive : 0 < n) (some : 0 < step)
    (part : f.units n ≤ 2*2^f.fractionBits*step) :
    (10 : ℚ)^(top f n-(f.fractionBits/3+1+1 : Nat)) < step/2^f.scale := by
  have powers := two_pow_lt_ten_pow f.fractionBits
  generalize f.fractionBits/3+1 = places at powers ⊢
  have first := (top_bounds (f := f) positive).1
  have split : (10 : ℚ)^(top f n-1) = 10^(top f n-(places+1 : Nat))*10^places := by
    rw [← zpow_natCast,← zpow_add₀ (by norm_num)]
    congr 1
    push_cast
    ring
  have part : (f.units n/2^f.scale : ℚ) < step/2^f.scale*10^places := by
    rw [div_mul_eq_mul_div,div_lt_div_iff_of_pos_right (by positivity),mul_comm]
    exact_mod_cast part.trans_lt (Nat.mul_lt_mul_of_pos_right powers some)
  rw [split] at first
  exact lt_of_mul_lt_mul_right (first.trans_lt part) (by positivity)

theorem exists_onGrid (tie : Tie) (positive : 0 < n) :
    (onGrid f tie n (top f n-(f.fractionBits/3+1+1 : Nat))).isSome := by
  obtain ⟨step,some,before,behind,part⟩ := f.exists_step positive
  have fine := grid_lt_step positive some part
  generalize top f n-(f.fractionBits/3+1+1 : Nat) = e at fine ⊢
  obtain ⟨below,-,low,high⟩ := neighbours_eq (f.units n) f.scale e
  have next : (⟨below+1,e⟩ : Decimal).value = (⟨below,e⟩ : Decimal).value+10^e := by
    simp only [value,Nat.cast_add,Nat.cast_one,add_mul,one_mul]
  rw [next] at high
  -- One of the two neighbours is at most half of the grid away.
  rcases le_total (2*(f.units n/2^f.scale-(⟨below,e⟩ : Decimal).value)) ((10 : ℚ)^e) with lower | upper
  · refine onGrid_isSome positive (roundsTo_of_near before behind ?_) (j := below)
    rw [abs_sub_comm,abs_of_nonneg (by linarith)]
    linarith
  · refine onGrid_isSome positive (roundsTo_of_near before behind ?_) (j := below+1)
    rw [next,abs_of_nonneg (by linarith)]
    linarith

/-! ### The search -/

theorem findSome?_range {α : Type} {g : Nat → Option α} {count i : Nat} (hi : i < count)
    (h : (g i).isSome) : ∃ j ≤ i, ∃ a, (List.range count).findSome? g = some a ∧ g j = some a := by
  have found : ((List.range count).findSome? g).isSome :=
    List.findSome?_isSome_iff.mpr ⟨i,List.mem_range.mpr hi,h⟩
  obtain ⟨a,ha⟩ := Option.isSome_iff_exists.mp found
  obtain ⟨before,j,after,split,hj,none⟩ := List.findSome?_eq_some_iff.mp ha
  refine ⟨j,?_,a,ha,hj⟩
  have sorted := List.pairwise_lt_range (n := count)
  have member : i ∈ before++j :: after := split ▸ List.mem_range.mpr hi
  rw [split,List.pairwise_append,List.pairwise_cons] at sorted
  rcases List.mem_append.mp member with early | late
  · simp [none i early] at h
  · rcases List.mem_cons.mp late with rfl | later
    · exact le_rfl
    · exact (sorted.2.1.1 i later).le

/-! ### Trailing zeros -/

theorem mod_digits_strip {fuel : Nat} (some : 0 < d.digits) (enough : d.digits < 10^fuel) :
    (strip fuel d).digits%10 ≠ 0 := by
  induction fuel generalizing d with
  | zero => omega
  | succ fuel ih =>
    rw [strip]
    split_ifs with zero
    · rw [Nat.pow_succ] at enough
      exact ih (show 0 < d.digits/10 by omega) (show d.digits/10 < 10^fuel by omega)
    · omega

theorem value_mul_pow (i k : Nat) (e : Int) :
    (⟨i*10^k,e⟩ : Decimal).value = (⟨i,e+k⟩ : Decimal).value := by
  rw [value,value,zpow_add₀ (by norm_num),zpow_natCast]
  push_cast
  ring

theorem value_mk_inj {i j : Nat} (h : (⟨i,e⟩ : Decimal).value = (⟨j,e⟩ : Decimal).value) : i = j :=
  Nat.le_antisymm ((value_mk_le_iff e).mp h.le) ((value_mk_le_iff e).mp h.ge)

theorem digits_le_of_value_eq {s : Decimal} (h : s.digits%10 ≠ 0) (same : s.value = d.value) :
    s.digits ≤ d.digits := by
  obtain ⟨i,e⟩ := s
  obtain ⟨j,e'⟩ := d
  rcases le_or_gt e' e with lower | higher
  · obtain ⟨k,rfl⟩ := Int.le.dest lower
    rw [← value_mul_pow] at same
    exact (Nat.le_mul_of_pos_right i (Nat.pow_pos (by decide))).trans_eq (value_mk_inj same)
  · obtain ⟨k,rfl⟩ := Int.le.dest higher.le
    rw [← value_mul_pow] at same
    obtain rfl : i = j*10^k := value_mk_inj same
    obtain ⟨k,rfl⟩ : ∃ k', k = k'+1 := ⟨k-1,by omega⟩
    rw [Nat.pow_succ,← Nat.mul_assoc] at h
    exact (h (Nat.mul_mod_left _ 10)).elim

/-- What is chosen comes from the first of the listed grids that holds a decimal which reads back. It
has no more digits than the grid asks for, and no trailing zeros. -/
theorem shortest_of_onGrid {length : Nat} (positive : 0 < n) (listed : length < f.fractionBits/3+2)
    (h : (onGrid f tie n (top f n-(length+1 : Nat))).isSome) :
    (shortest f tie n).digits%10 ≠ 0 ∧ (shortest f tie n).digits < 10^(length+1) := by
  obtain ⟨j,hj,d,found,hd⟩ := findSome?_range (g := fun length : Nat =>
    onGrid f tie n (top f n-(length+1 : Nat))) listed h
  have chosen : shortest f tie n = strip (digitCount d.digits) d := by
    simp only [Nat.cast_succ] at found
    rw [shortest,← top,found,Option.getD_some]
  have some : 0 < d.digits := digits_pos positive (readsBack_iff.mp (readsBack_of_onGrid hd))
  have stripped := mod_digits_strip some (lt_pow_digitCount d.digits)
  have same := value_strip (digitCount d.digits) d
  have bound : d.digits ≤ 10^(j+1) := digits_le_of_onGrid positive hd
  have power : 10^(j+1) ≤ 10^(length+1) := Nat.pow_le_pow_right (by decide) (by omega)
  rw [chosen]
  refine ⟨stripped,?_⟩
  rcases bound.lt_or_eq with less | whole
  · exact (digits_le_of_value_eq stripped same).trans_lt (less.trans_le power)
  · -- A power of ten has one digit.
    have one : (strip (digitCount d.digits) d).value = (⟨1,d.exponent+(j+1 : Nat)⟩ : Decimal).value := by
      rw [same,← value_mul_pow,Nat.one_mul,← whole]
    exact (digits_le_of_value_eq stripped one).trans_lt (Nat.one_lt_pow (by omega) (by decide))

/-- The decimal that is chosen has no more digits than any other one that rounds to the magnitude. -/
theorem digitCount_shortest_le (tie : Tie) (positive : 0 < n) (h : RoundsTo f n d.value) :
    digitCount (shortest f tie n).digits ≤ digitCount d.digits := by
  obtain ⟨length,few,grid⟩ := exists_onGrid_of_roundsTo tie positive h
  rw [digitCount_le_iff (digitCount_pos _)]
  rcases Nat.lt_or_ge length (f.fractionBits/3+2) with listed | beyond
  · exact (shortest_of_onGrid positive listed grid).2.trans_le
      (Nat.pow_le_pow_right (by decide) few)
  · -- Where the grid is not listed, the last one that is listed is coarser already.
    exact (shortest_of_onGrid positive (by omega) (exists_onGrid tie positive)).2.trans_le
      (Nat.pow_le_pow_right (by decide) (by omega))

theorem mod_digits_shortest (tie : Tie) (positive : 0 < n) : (shortest f tie n).digits%10 ≠ 0 :=
  (shortest_of_onGrid positive (by omega) (exists_onGrid tie positive)).1

end Decimal
end ColumnarReport
