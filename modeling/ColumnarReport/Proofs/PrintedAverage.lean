import ColumnarReport.Report
import ColumnarReport.Proofs.DecimalText
import ColumnarReport.Proofs.IntegerQuotient
import ColumnarReport.Proofs.IntegerStatistics

/-! The average of integers as the report prints it, against their exact mean. The sum is exact, but it
is rounded to a double, and so is the quotient. While 200 times the sum stays below 2^53 what is
printed is a nearest hundredth of the mean, and up to a sum of 2^53 it stays between the least and the
greatest integer. The next sum is rounded by one already, and with it the average may leave that
range. -/
namespace ColumnarReport

theorem abs_mul_sub_lt {s c z one distance e : ℚ} (hc : 0 < c) (positive : 0 < one)
    (near : |z-s*one/c| ≤ distance) (small : distance*c < e*one) : |z/one*c-s| < e := by
  have scaled : z-s*one/c = (z/one*c-s)*(one/c) := by
    field_simp
  rw [scaled,abs_mul,abs_of_pos (div_pos positive hc),mul_div_assoc',div_le_iff₀ hc] at near
  exact lt_of_mul_lt_mul_right (near.trans_lt small) positive.le

/-- Twice the distance of a hundredth from a quotient, times its denominator, is an integer. So where
it is less than one above the denominator it is not above it. -/
theorem abs_hundredth_sub_le {h s c : Nat} {z : ℚ} (hc : 0 < c) (rounded : |(h/100 : ℚ)-z| ≤ 1/200)
    (near : |z*c-s| < 1/200) : |(h/100 : ℚ)-s/c| ≤ 1/200 := by
  have counted : (0 : ℚ) < c := Nat.cast_pos.mpr hc
  rw [abs_le] at rounded
  rw [abs_lt] at near
  have upper : 2*(h*c) < 200*s+c+1 := by
    have := mul_le_mul_of_nonneg_right rounded.2 counted.le
    have : (2*(h*c) : ℚ) < 200*s+c+1 := by linarith
    exact_mod_cast this
  have lower : 200*s < 2*(h*c)+c+1 := by
    have := mul_le_mul_of_nonneg_right rounded.1 counted.le
    have : (200*s : ℚ) < 2*(h*c)+c+1 := by linarith
    exact_mod_cast this
  have upper : (2*(h*c) : ℚ) ≤ 200*s+c := by exact_mod_cast Nat.le_of_lt_succ upper
  have lower : (200*s : ℚ) ≤ 2*(h*c)+c := by exact_mod_cast Nat.le_of_lt_succ lower
  have distance : (h/100 : ℚ)-s/c = (2*(h*c)-200*s)/(200*c) := by
    field_simp
    ring
  rw [distance,abs_div,abs_of_pos (mul_pos (by norm_num) counted),div_le_iff₀ (by positivity),abs_le]
  constructor <;> linarith

theorem abs_signed_sub (negative : Bool) (v w : ℚ) :
    |signed negative v-signed negative w| = |v-w| := by
  cases negative with
  | false => rfl
  | true =>
    change |-v-(-w)| = _
    rw [neg_sub_neg,abs_sub_comm]

theorem signed_div (negative : Bool) (v w : ℚ) : signed negative (v/w) = signed negative v/w := by
  cases negative with
  | false => rfl
  | true => exact (neg_div w v).symm

theorem signed_natAbs (sum : Int) : signed (decide (sum < 0)) sum.natAbs = sum := by
  rw [signed,Nat.cast_natAbs]
  by_cases negative : sum < 0
  · simp [negative,abs_of_neg negative]
  · simp [negative,abs_of_nonneg (not_lt.mp negative)]

/-- Integers below and above a number keep their places when its sign changes. -/
theorem signed_between {v w : ℚ} (negative : Bool) (low : ⌊w⌋ ≤ v) (high : v ≤ ⌈w⌉) :
    (⌊signed negative w⌋ : ℚ) ≤ signed negative v ∧ signed negative v ≤ ⌈signed negative w⌉ := by
  cases negative with
  | false => exact ⟨low,high⟩
  | true =>
    simp only [signed,if_true,Int.floor_neg,Int.ceil_neg,Int.cast_neg]
    exact ⟨neg_le_neg high,neg_le_neg low⟩

namespace Binary

open BinaryFormat (double)

variable {sum : Int} {count k : Nat}

theorem le_units_mean (hs : sum.natAbs ≤ 2^53) (some : 0 < count) (h : k*count ≤ sum.natAbs) :
    k*double.unitsPerOne ≤ (mean sum count).units := by
  rcases le_or_gt count (2^53) with few | many
  · have one := double.unitsPerOne_pos
    have small : k ≤ 2^53 := (Nat.le_mul_of_pos_right k some).trans (h.trans hs)
    rw [mean_of_few hs some few]
    refine le_round _ double.scale small (by decide) (by decide) (Nat.mul_pos some one) ?_
    calc k*double.unitsPerOne*(count*double.unitsPerOne) =
          k*count*double.unitsPerOne*double.unitsPerOne := by ring
      _ ≤ sum.natAbs*double.unitsPerOne*double.unitsPerOne := by gcongr
  · obtain rfl : k = 0 := by
      by_contra positive
      have := Nat.le_mul_of_pos_left count (Nat.pos_of_ne_zero positive)
      omega
    rw [Nat.zero_mul]
    exact Nat.zero_le _

theorem units_mean_le (hs : sum.natAbs ≤ 2^53) (some : 0 < count) (h : sum.natAbs ≤ k*count) :
    (mean sum count).isFinite ∧ (mean sum count).units ≤ k*double.unitsPerOne := by
  rcases le_or_gt count (2^53) with few | many
  · -- No quotient is above the sum, so larger bounds need no grid point of their own.
    have one := double.unitsPerOne_pos
    have least : sum.natAbs ≤ min k sum.natAbs*count := by
      rcases Nat.le_total k sum.natAbs with below | above
      · rwa [min_eq_left below]
      · rw [min_eq_right above]
        exact Nat.le_mul_of_pos_right _ some
    have bound : sum.natAbs*double.unitsPerOne*double.unitsPerOne ≤
        min k sum.natAbs*2^double.scale*(count*double.unitsPerOne) := by
      calc _ ≤ min k sum.natAbs*count*double.unitsPerOne*double.unitsPerOne := by gcongr
        _ = min k sum.natAbs*double.unitsPerOne*(count*double.unitsPerOne) := by ring
    rw [mean_of_few hs some few]
    obtain ⟨finite,upper⟩ := round_le (decide (sum < 0)) double.scale ((min_le_right ..).trans hs)
      (by decide) (by decide) (Nat.mul_pos some one) bound
    exact ⟨finite,upper.trans (Nat.mul_le_mul_right _ (min_le_left ..))⟩
  · obtain ⟨finite,upper⟩ := mean_of_many hs many.le
    refine ⟨finite,?_⟩
    rcases Nat.eq_zero_or_pos k with rfl | positive
    · rw [Nat.zero_mul] at h ⊢
      rw [Nat.le_zero.mp h,Nat.zero_mul] at upper
      omega
    · have : sum.natAbs*double.unitsPerOne ≤ 2^53*double.unitsPerOne := Nat.mul_le_mul_right _ hs
      have : double.unitsPerOne ≤ k*double.unitsPerOne := Nat.le_mul_of_pos_left _ positive
      omega

theorem isFinite_mean (hs : sum.natAbs ≤ 2^53) (some : 0 < count) : (mean sum count).isFinite :=
  (units_mean_le hs some (Nat.le_mul_of_pos_right _ some)).1

/-- A small sum leaves so little rounding that no other hundredth comes nearer. -/
theorem abs_hundredths_mean_sub_le (hs : 200*sum.natAbs < 2^53) (some : 0 < count) :
    |((mean sum count).hundredths/100 : ℚ)-sum.natAbs/count| ≤ 1/200 := by
  have counted : (0 : ℚ) < count := Nat.cast_pos.mpr some
  have one : (0 : ℚ) < double.unitsPerOne := Nat.cast_pos.mpr double.unitsPerOne_pos
  have small : (200*sum.natAbs : ℚ) < 2^53 := by exact_mod_cast hs
  rcases le_or_gt count (2^53) with few | many
  · have finite := isFinite_mean (show sum.natAbs ≤ 2^53 by omega) some
    have value : (mean sum count).units = double.units (double.nearest
        (sum.natAbs*double.unitsPerOne*double.unitsPerOne) (count*double.unitsPerOne)) := by
      rw [mean_of_few (by omega) some few]
      rfl
    rw [mean_of_few (by omega) some few] at finite
    obtain ⟨step,short,near⟩ := double.abs_units_nearest_sub_le (isFinite_iff.mp finite)
      (Nat.mul_pos some double.unitsPerOne_pos)
    have quotient : ((sum.natAbs*double.unitsPerOne*double.unitsPerOne : Nat) : ℚ)/
        (count*double.unitsPerOne : Nat) = sum.natAbs*double.unitsPerOne/count := by
      push_cast
      rw [mul_div_mul_right _ _ one.ne']
    rw [← value,quotient] at near
    rw [quotient,show double.fractionBits = 52 from rfl] at short
    have error : 200*(step*count : ℚ) < 2*double.unitsPerOne := by
      rcases short with rfl | short
      · have wide : (2^64 : ℚ) ≤ double.unitsPerOne := by
          exact_mod_cast two_pow_le_unitsPerOne (show 64 ≤ 1000 by decide)
        have few : (count : ℚ) ≤ 2^53 := by exact_mod_cast few
        rw [Nat.cast_one]
        linarith
      · rw [le_div_iff₀ counted] at short
        have := mul_lt_mul_of_pos_right small one
        linarith
    have rounded := abs_hundredths_sub_le (mean sum count)
    refine abs_hundredth_sub_le some rounded (abs_mul_sub_lt counted one near ?_)
    linarith
  · obtain ⟨-,upper⟩ := mean_of_many (show sum.natAbs ≤ 2^53 by omega) many.le
    have zero : (mean sum count).hundredths = 0 := by
      refine roundQuotient_eq_zero ?_
      have := Nat.mul_le_mul_right double.unitsPerOne (show 200*sum.natAbs ≤ 2^53-1 by omega)
      rw [Nat.mul_assoc] at this
      have := double.unitsPerOne_pos
      omega
    have wide : (2^53 : ℚ) < count := by exact_mod_cast many
    have share : (0 : ℚ) ≤ sum.natAbs/count := div_nonneg (Nat.cast_nonneg _) counted.le
    rw [zero,Nat.cast_zero,zero_div,zero_sub,abs_neg,abs_of_nonneg share,div_le_iff₀ counted]
    linarith

theorem floor_le_hundredths_mean (hs : sum.natAbs ≤ 2^53) (some : 0 < count) :
    (⌊(sum.natAbs/count : ℚ)⌋ : ℚ) ≤ (mean sum count).hundredths/100 ∧
      ((mean sum count).hundredths/100 : ℚ) ≤ ⌈(sum.natAbs/count : ℚ)⌉ := by
  have counted : (0 : ℚ) < count := Nat.cast_pos.mpr some
  have share : (0 : ℚ) ≤ sum.natAbs/count := div_nonneg (Nat.cast_nonneg _) counted.le
  rw [← natCast_floor_eq_intCast_floor share,← natCast_ceil_eq_intCast_ceil share]
  constructor
  · rw [le_div_iff₀ (by norm_num)]
    have : ⌊(sum.natAbs/count : ℚ)⌋₊*count ≤ sum.natAbs := by
      have := Nat.floor_le share
      rw [le_div_iff₀ counted] at this
      exact_mod_cast this
    exact_mod_cast le_hundredths (le_units_mean hs some this)
  · rw [div_le_iff₀ (by norm_num)]
    have : sum.natAbs ≤ ⌈(sum.natAbs/count : ℚ)⌉₊*count := by
      have := Nat.le_ceil (sum.natAbs/count : ℚ)
      rw [div_le_iff₀ counted] at this
      exact_mod_cast this
    exact_mod_cast hundredths_le (units_mean_le hs some this).2

end Binary

open DecimalText

namespace NumericStatistics

open Binary (mean)

variable {cells : List Cell} {sum : Int} {count : Nat}

/-- The text is a number of hundredths, at most a distance away from a number. -/
def ReadsWithin (text : String) (value distance : ℚ) : Prop :=
  ∃ hundredths : Int, number? text.toList = some (hundredths/100 : ℚ) ∧
    |(hundredths/100 : ℚ)-value| ≤ distance

theorem signed_share (sum : Int) (count : Nat) :
    signed (decide (sum < 0)) (sum.natAbs/count) = sum/count := by
  rw [signed_div,signed_natAbs]

theorem readsWithin_twoDecimals {x : Double} {share distance : ℚ} (finite : x.isFinite)
    (near : |(x.hundredths/100 : ℚ)-share| ≤ distance) :
    ReadsWithin x.twoDecimals (signed x.negative share) distance := by
  have read := Binary.number?_twoDecimals finite
  rw [← abs_signed_sub x.negative] at near
  have whole : ((if x.negative then -x.hundredths else x.hundredths : Int) : ℚ)/100 =
      signed x.negative (x.hundredths/100) := by
    rw [signed_div,signed]
    push_cast
    rfl
  exact ⟨_,by rw [whole,read],by rwa [whole]⟩

theorem readsWithin_mean {distance : ℚ} (hs : (Binary.ofInt sum : Double).isFinite)
    (some : 0 < count) (finite : (mean sum count).isFinite)
    (near : |((mean sum count).hundredths/100 : ℚ)-sum.natAbs/count| ≤ distance) :
    ReadsWithin (mean sum count).twoDecimals (sum/count) distance := by
  have reads := readsWithin_twoDecimals finite near
  rwa [Binary.mean_negative hs some,signed_share] at reads

theorem number?_shown {c : Cell} {x : Int} (h : c.integer? = some x) :
    number? c.shown.toList = some (x : ℚ) := by
  cases c with
  | int v =>
    obtain rfl := Option.some.inj h
    change number? (toString v.toInt).toList = _
    exact number?_toString v.toInt
  | uint v =>
    obtain rfl := Option.some.inj h
    change number? (toString (v.toNat : Int)).toList = _
    exact number?_toString v.toNat
  | null | bool | float | text | other => cases h

def exactMean (xs : List Int) : ℚ := xs.sum/xs.length

theorem Spans.mean_bounds {xs : List Int} {low high : Int} (h : Spans xs low high) :
    low ≤ exactMean xs ∧ exactMean xs ≤ high := by
  have counted : (0 : ℚ) < xs.length := Nat.cast_pos.mpr (List.length_pos_of_mem h.low_mem)
  have lower := List.card_nsmul_le_sum xs low fun x hx => (h.bounds x hx).1
  have upper := List.sum_le_card_nsmul xs high fun x hx => (h.bounds x hx).2
  rw [nsmul_eq_mul,mul_comm] at lower upper
  rw [exactMean,le_div_iff₀ counted,div_le_iff₀ counted]
  exact ⟨by exact_mod_cast lower,by exact_mod_cast upper⟩

section

variable {xs : List Int} {low high : Int}

theorem mean_reads_of_small (some : 0 < xs.length) (small : 200*xs.sum.natAbs < 2^53) :
    ReadsWithin (mean xs.sum xs.length).twoDecimals (exactMean xs) (1/200) :=
  have exact : xs.sum.natAbs ≤ 2^53 := by omega
  readsWithin_mean (Binary.ofInt_exact exact).1 some (Binary.isFinite_mean exact some)
    (Binary.abs_hundredths_mean_sub_le small some)

theorem mean_reads_between (spans : Spans xs low high) (small : xs.sum.natAbs ≤ 2^53) :
    ∃ v, number? (mean xs.sum xs.length).twoDecimals.toList = some v ∧
      (⌊exactMean xs⌋ ≤ v ∧ v ≤ ⌈exactMean xs⌉) ∧ low ≤ v ∧ v ≤ high := by
  have some := List.length_pos_of_mem spans.low_mem
  have read := Binary.number?_twoDecimals (Binary.isFinite_mean small some)
  rw [Binary.mean_negative (Binary.ofInt_exact small).1 some] at read
  obtain ⟨floor,ceil⟩ := Binary.floor_le_hundredths_mean small some
  obtain ⟨floor,ceil⟩ := signed_between (decide (xs.sum < 0)) floor ceil
  rw [signed_share,← exactMean] at floor ceil
  obtain ⟨lower,upper⟩ := spans.mean_bounds
  refine ⟨_,read,⟨floor,ceil⟩,?_,?_⟩
  · exact (Int.cast_le.mpr (Int.le_floor.mpr lower)).trans floor
  · exact ceil.trans (Int.cast_le.mpr (Int.ceil_le.mpr upper))

theorem mean_reads_near (some : 0 < xs.length) (bounds : ∀ x ∈ xs, -2^63 ≤ x ∧ x < 2^64)
    (short : xs.length < 2^63) : ReadsWithin (mean xs.sum xs.length).twoDecimals (exactMean xs)
      (1/200+|exactMean xs|/2^51) := by
  have sum := sum_bounds bounds short
  have fits : xs.sum.natAbs ≤ 2^127 := by omega
  have sumFinite := (Binary.ofInt_le_two_pow (by decide) fits).1
  have countFinite :=
    (Binary.ofInt_le_two_pow (i := xs.length) (show 63 ≤ 900 by decide) (by omega)).1
  have finite := Binary.isFinite_mean_of_two_pow fits some countFinite
  have near := Binary.mean_near fits some short.le
  refine readsWithin_mean sumFinite some finite ?_
  have rounded := Binary.abs_hundredths_sub_le (mean xs.sum xs.length)
  have share : |exactMean xs| = xs.sum.natAbs/xs.length := by
    rw [exactMean,abs_div,Nat.abs_cast,Nat.cast_natAbs,Int.cast_abs]
  rw [share]
  calc _ ≤ _ := abs_sub_le _ ((mean xs.sum xs.length).units/BinaryFormat.double.unitsPerOne : ℚ) _
    _ ≤ 1/200+4*(1/2^53)*(xs.sum.natAbs/xs.length) := add_le_add rounded near
    _ = 1/200+xs.sum.natAbs/xs.length/2^51 := by ring

end

/-- The lines of the report for a list of integers, and the numbers that are read in them. The average
is a nearest hundredth of the mean while 200 times the sum is below 2^53, and within the range of the
integers up to a sum of 2^53. Beyond that it is as near as doubles are. -/
theorem ofCells_printed (all : AllIntegers cells) (many : 1 < (numbers cells).length) :
    ∃ n least greatest average, ofCells cells = some n ∧
      Report.numericLines n = ["  Min: "++least,"  Max: "++greatest,"  Average: "++average] ∧
      ∃ low high : Int, Spans (integers cells) low high ∧
        number? least.toList = some (low : ℚ) ∧ number? greatest.toList = some (high : ℚ) ∧
        (200*(integers cells).sum.natAbs < 2^53 →
          ReadsWithin average (exactMean (integers cells)) (1/200)) ∧
        ((integers cells).sum.natAbs ≤ 2^53 → ∃ v, number? average.toList = some v ∧
          (⌊exactMean (integers cells)⌋ ≤ v ∧ v ≤ ⌈exactMean (integers cells)⌉) ∧
          low ≤ v ∧ v ≤ high) ∧
        (cells.length < 2^63 → ReadsWithin average (exactMean (integers cells))
          (1/200+|exactMean (integers cells)|/2^51)) := by
  have lengths := length_integers all
  obtain ⟨n,hn⟩ : ∃ n, ofCells cells = some n := by
    refine Option.ne_none_iff_exists'.mp fun none => ?_
    rw [ofCells_eq_none_iff.mp none] at many
    simp at many
  obtain ⟨low,high,least,greatest,spans,average⟩ := ofCells_of_integers all hn
  have some := List.length_pos_of_mem spans.low_mem
  rw [averageOfIntegers,if_pos (lengths ▸ many),← mean] at average
  refine ⟨n,n.least.shown,n.greatest.shown,_,hn,by rw [Report.numericLines,average]; rfl,low,high,spans,
    number?_shown least,number?_shown greatest,mean_reads_of_small some,mean_reads_between spans,
    fun short => mean_reads_near some (fun x hx => ?_) ?_⟩
  · obtain ⟨c,-,hc⟩ := mem_integers.mp hx
    exact Cell.integer?_bounds hc
  · exact (List.length_filterMap_le ..).trans_lt short

/-- A third, of integers of both signs between other cells. -/
theorem ofCells_printed_of_third :
    let cells : List Cell := [.int (-1),.text "9",.uint 2,.null,.int 0]
    AllIntegers cells ∧ 1 < (numbers cells).length ∧ 200*(integers cells).sum.natAbs < 2^53 ∧
      ∃ n least greatest average, ofCells cells = some n ∧
        Report.numericLines n = ["  Min: "++least,"  Max: "++greatest,"  Average: "++average] ∧
        ReadsWithin average (1/3) (1/200) := by
  intro cells
  have all : AllIntegers cells := by simp +decide [AllIntegers,cells,numbers]
  have many : 1 < (numbers cells).length := by decide
  have small : 200*(integers cells).sum.natAbs < 2^53 := by decide
  obtain ⟨n,least,greatest,average,hn,lines,low,high,-,-,-,near,-⟩ := ofCells_printed all many
  have third : exactMean (integers cells) = 1/3 := by decide +kernel
  exact ⟨all,many,small,n,least,greatest,average,hn,lines,third ▸ near small⟩

/-- The sum is 2^53+1, which no double is, and the average of three equal integers is half below them.
-/
theorem average_below_equal_integers :
    let cells : List Cell := List.replicate 3 (.int 3002399751580331)
    (ofCells cells).map Report.numericLines = some ["  Min: 3002399751580331",
      "  Max: 3002399751580331","  Average: 3002399751580330.50"] ∧
    exactMean (integers cells) = 3002399751580331 := by
  decide +kernel

end NumericStatistics
end ColumnarReport
