import ColumnarReport.Report
import ColumnarReport.Proofs.DecimalText
import ColumnarReport.Proofs.IntegerQuotient
import ColumnarReport.Proofs.Widening

/-! The sizes that the report prints and what is computed of them. Totals are sums of words; where
the sum of the integers fits a word, nothing wraps around, whatever the partial sums come to. The
totals of a file are sums over its chunks however these are divided into row groups. A ratio is
rounded three times, from both sizes and from their quotient, and still never passes one to the side
where the difference of the sizes is not. -/
namespace ColumnarReport

namespace Binary

open BinaryFormat (double)

section

variable {f : BinaryFormat} {x : Binary f}

theorem value_of_nonneg (h : x.negative = false) : x.value = x.units/f.unitsPerOne := by
  simp [value,signedUnits,h,BinaryFormat.unitsPerOne]

theorem value_nonneg (h : x.negative = false) : 0 ≤ x.value := by
  rw [value_of_nonneg h]
  positivity

theorem value_pos (h : x.negative = false) (some : 0 < x.units) : 0 < x.value := by
  rw [value_of_nonneg h]
  exact div_pos (Nat.cast_pos.mpr some) (Nat.cast_pos.mpr f.unitsPerOne_pos)

theorem one_le_value (h : x.negative = false) (large : f.unitsPerOne ≤ x.units) : 1 ≤ x.value := by
  rw [value_of_nonneg h,one_le_div (Nat.cast_pos.mpr f.unitsPerOne_pos)]
  exact Nat.cast_le.mpr large

theorem value_le_one (h : x.negative = false) (small : x.units ≤ f.unitsPerOne) : x.value ≤ 1 := by
  rw [value_of_nonneg h,div_le_one (Nat.cast_pos.mpr f.unitsPerOne_pos)]
  exact Nat.cast_le.mpr small

end

variable {sum : Int} {count : Nat}

theorem units_ofInt_mono {i j : Int} (h : i.natAbs ≤ j.natAbs) :
    (ofInt i : Double).units ≤ (ofInt j : Double).units :=
  double.units_strictMono.monotone (double.nearest_mono 1 (Nat.mul_le_mul_right _ h))

theorem isFinite_ofInt (h : sum.natAbs ≤ 2^64) : (ofInt sum : Double).isFinite :=
  (ofInt_le_two_pow (by decide) h).1

section

variable (hs : sum.natAbs ≤ 2^64) (some : 0 < count) (hc : count ≤ 2^64)

include hs some hc

theorem isFinite_mean_of_sizes : (mean sum count).isFinite :=
  isFinite_mean_of_two_pow (hs.trans (by decide)) some (isFinite_ofInt (by omega))

theorem mean_of_sizes : mean sum count = round (decide (sum < 0))
    ((ofInt sum : Double).units*double.unitsPerOne) (ofInt count : Double).units :=
  mean_of_isFinite (isFinite_ofInt hs) (isFinite_ofInt (by omega)) some

theorem units_mean_le_one (h : sum.natAbs ≤ count) : (mean sum count).units ≤ double.unitsPerOne := by
  have bound : (ofInt sum : Double).units*double.unitsPerOne ≤
      1*2^double.scale*(ofInt count : Double).units := by
    rw [Nat.one_mul,Nat.mul_comm]
    exact Nat.mul_le_mul_left _ (units_ofInt_mono (by omega))
  have upper := (round_le (decide (sum < 0)) double.scale (by decide) (by decide) (by decide)
    (units_count_pos some) bound).2
  rwa [Nat.one_mul,← mean_of_sizes hs some hc] at upper

theorem one_le_units_mean (h : count ≤ sum.natAbs) : double.unitsPerOne ≤ (mean sum count).units := by
  have bound : 1*2^double.scale*(ofInt count : Double).units ≤
      (ofInt sum : Double).units*double.unitsPerOne := by
    rw [Nat.one_mul,Nat.mul_comm]
    exact Nat.mul_le_mul_right _ (units_ofInt_mono (by omega))
  have lower := le_round (decide (sum < 0)) double.scale (by decide) (by decide) (by decide)
    (units_count_pos some) bound
  rwa [Nat.one_mul,← mean_of_sizes hs some hc] at lower

/-- A quotient of sizes is far above the least numbers, so it is not rounded to zero. -/
theorem units_mean_pos (positive : 0 < sum.natAbs) : 0 < (mean sum count).units := by
  have power : 2^(double.scale-64)*2^64 = double.unitsPerOne := by
    rw [← pow_add,Nat.sub_add_cancel (by decide),BinaryFormat.unitsPerOne]
  have counted := (ofInt_le_two_pow (i := count) (show 64 ≤ 900 by decide) (by omega)).2
  have bound : 1*2^(double.scale-64)*(ofInt count : Double).units ≤
      (ofInt sum : Double).units*double.unitsPerOne := by
    calc _ ≤ 1*2^(double.scale-64)*(2^64*double.unitsPerOne) := Nat.mul_le_mul_left _ counted
      _ = double.unitsPerOne*double.unitsPerOne := by rw [Nat.one_mul,← Nat.mul_assoc,power]
      _ ≤ _ := Nat.mul_le_mul_right _ (unitsPerOne_le_ofInt positive)
  have least : 0 < 1*2^(double.scale-64) := Nat.mul_pos one_pos (pow_pos two_pos _)
  have lower := le_round (decide (sum < 0)) (double.scale-64) (by decide) (by decide) (by decide)
    (units_count_pos some) bound
  rw [mean_of_sizes hs some hc]
  exact least.trans_le lower

end

end Binary

open Binary (mean)

def FitsLong (i : Int) : Prop := -2^63 ≤ i ∧ i < 2^63

instance (i : Int) : Decidable (FitsLong i) := inferInstanceAs (Decidable (_ ∧ _))

/-- A ratio that stands exactly beside two positive sizes, as a positive number. -/
structure PresentWhenPositive (ratio : Option Double) (uncompressed compressed : Int) : Prop where
  isSome_iff : ratio.isSome ↔ 0 < uncompressed ∧ 0 < compressed
  finite : ∀ r ∈ ratio, r.isFinite ∧ 0 < r.value

/-! ### Sums of words -/

theorem toInt_sum_of_fits {α : Type} {size : α → Int64} {xs : List α}
    (fits : FitsLong (xs.map fun x => (size x).toInt).sum) :
    (xs.map size).sum.toInt = (xs.map fun x => (size x).toInt).sum := by
  rw [sum_eq_ofInt,List.map_map]
  exact Int64.toInt_ofInt_of_le fits.1 fits.2

theorem sum_eq_of_perm {words words' : List Int64} (h : words.Perm words') :
    words.sum = words'.sum := by
  rw [sum_eq_ofInt,sum_eq_ofInt,(h.map _).sum_eq]

/-! ### Ratios -/

section

variable {uncompressed compressed : Int64} {r : Double}

theorem positive_iff {w : Int64} : 0 < w ↔ 0 < w.toInt := Int64.lt_iff_toInt_lt

theorem isSome_compressionRatio (uncompressed compressed : Int64) :
    (compressionRatio uncompressed compressed).isSome ↔
      0 < uncompressed.toInt ∧ 0 < compressed.toInt := by
  simp only [compressionRatio,positive_iff]
  split_ifs with positive <;> simp [positive]

theorem compressionRatio_eq_some (h : r ∈ compressionRatio uncompressed compressed) :
    (0 < uncompressed.toInt ∧ 0 < compressed.toInt) ∧
      r = mean uncompressed.toInt compressed.toInt.toNat := by
  simp only [compressionRatio,positive_iff] at h
  split_ifs at h with positive
  · refine ⟨positive,(Option.some.inj h).symm.trans ?_⟩
    rw [mean,Int.toNat_of_nonneg positive.2.le]
  · cases h

/-- A ratio is a positive number, and on the same side of one as the first size of the second. -/
theorem compressionRatio_bounds (h : r ∈ compressionRatio uncompressed compressed) :
    (r.isFinite ∧ r.negative = false ∧ 0 < r.units) ∧
      (compressed.toInt ≤ uncompressed.toInt → BinaryFormat.double.unitsPerOne ≤ r.units) ∧
      (uncompressed.toInt ≤ compressed.toInt → r.units ≤ BinaryFormat.double.unitsPerOne) := by
  obtain ⟨positive,rfl⟩ := compressionRatio_eq_some h
  have hu := uncompressed.toInt_lt
  have hc := compressed.toInt_lt
  have large : uncompressed.toInt.natAbs ≤ 2^64 := by omega
  have some : 0 < compressed.toInt.toNat := by omega
  have few : compressed.toInt.toNat ≤ 2^64 := by omega
  have sign : decide (uncompressed.toInt < 0) = false := decide_eq_false (by omega)
  refine ⟨⟨Binary.isFinite_mean_of_sizes large some few,?_,
    Binary.units_mean_pos large some few (by omega)⟩,fun more => ?_,fun less => ?_⟩
  · rw [Binary.mean_negative (Binary.isFinite_ofInt large) some,sign]
  · exact Binary.one_le_units_mean large some few (by omega)
  · exact Binary.units_mean_le_one large some few (by omega)

theorem presentWhenPositive_compressionRatio (uncompressed compressed : Int64) :
    PresentWhenPositive (compressionRatio uncompressed compressed) uncompressed.toInt
      compressed.toInt := by
  refine ⟨isSome_compressionRatio ..,fun r h => ?_⟩
  obtain ⟨⟨finite,sign,some⟩,-⟩ := compressionRatio_bounds h
  exact ⟨finite,Binary.value_pos sign some⟩

end

namespace Footer

def chunks (m : Footer) : List ColumnChunk := m.rowGroups.flatMap (·.chunks)

/-- The sums of sizes and of rows are integers of 64 bits. -/
structure SizesFit (m : Footer) : Prop where
  fileSize : m.fileSize < 2^64
  numRows : FitsLong (m.rowGroups.map (·.numRows.toInt)).sum
  uncompressed : FitsLong (m.chunks.map (·.uncompressedSize.toInt)).sum
  compressed : FitsLong (m.chunks.map (·.compressedSize.toInt)).sum

theorem sum_rowGroups (size : ColumnChunk → Int64) (groups : List RowGroup) :
    (groups.map fun g => (g.chunks.map size).sum).sum = ((groups.flatMap (·.chunks)).map size).sum := by
  induction groups with
  | nil => rfl
  | cons g groups ih =>
    rw [List.map_cons,List.sum_cons,ih,List.flatMap_cons,List.map_append,List.sum_append]

variable {m m' : Footer} {r : Double}

theorem uncompressedSize_eq (m : Footer) :
    m.uncompressedSize = (m.chunks.map (·.uncompressedSize)).sum := sum_rowGroups _ _

theorem compressedSize_eq (m : Footer) :
    m.compressedSize = (m.chunks.map (·.compressedSize)).sum := sum_rowGroups _ _

theorem SizesFit.totals (fits : m.SizesFit) :
    m.numRows.toInt = (m.rowGroups.map (·.numRows.toInt)).sum ∧
    m.uncompressedSize.toInt = (m.chunks.map (·.uncompressedSize.toInt)).sum ∧
    m.compressedSize.toInt = (m.chunks.map (·.compressedSize.toInt)).sum := by
  rw [uncompressedSize_eq,compressedSize_eq]
  exact ⟨toInt_sum_of_fits fits.numRows,toInt_sum_of_fits fits.uncompressed,
    toInt_sum_of_fits fits.compressed⟩

/-- Neither the order of the chunks nor their division into row groups changes a total. -/
theorem sizes_eq_of_perm (h : m'.chunks.Perm m.chunks) :
    m'.uncompressedSize = m.uncompressedSize ∧ m'.compressedSize = m.compressedSize := by
  rw [uncompressedSize_eq,uncompressedSize_eq,compressedSize_eq,compressedSize_eq]
  exact ⟨sum_eq_of_perm (h.map _),sum_eq_of_perm (h.map _)⟩

theorem averageRowSize_bounds (bytes : m.fileSize < 2^64) :
    m.averageRowSize.isFinite ∧ m.averageRowSize.negative = false := by
  have rows := m.numRows.toInt_lt
  simp only [averageRowSize,positive_iff]
  split_ifs with some
  · have large : (m.fileSize : Int).natAbs ≤ 2^64 := by omega
    have quotient : (Binary.ofInt m.fileSize : Double).div (.ofInt m.numRows.toInt) =
        mean m.fileSize m.numRows.toInt.toNat := by
      rw [mean,Int.toNat_of_nonneg some.le]
    rw [quotient]
    refine ⟨Binary.isFinite_mean_of_sizes large (by omega) (by omega),?_⟩
    rw [Binary.mean_negative (Binary.isFinite_ofInt large) (by omega)]
    exact decide_eq_false (by omega)
  · exact ⟨Binary.isFinite_zero _,rfl⟩

theorem isFinite_fileMegabytes (h : m.fileSize < 2^64) : m.fileMegabytes.isFinite :=
  have large : (m.fileSize : Int).natAbs ≤ 2^64 := by omega
  Binary.isFinite_mean_of_sizes large (show 0 < 1024*1024 by decide) (by decide)

/-- The difference of two positive sizes does not wrap around. -/
theorem toInt_bytesSaved (h : r ∈ m.compressionRatio) :
    m.bytesSaved.toInt = m.uncompressedSize.toInt-m.compressedSize.toInt := by
  obtain ⟨⟨hu,hc⟩,-⟩ := compressionRatio_eq_some h
  have lu := m.uncompressedSize.toInt_lt
  have lc := m.compressedSize.toInt_lt
  rw [bytesSaved,Int64.toInt_sub]
  exact Int.bmod_eq_of_le (by omega) (by omega)

/-- Where nothing is saved the ratio is at most one, and where nothing is lost it is at least one. -/
theorem bytesSaved_sides (h : r ∈ m.compressionRatio) :
    (0 < m.bytesSaved.toInt ∨ r.units ≤ BinaryFormat.double.unitsPerOne) ∧
      (m.bytesSaved.toInt < 0 ∨ BinaryFormat.double.unitsPerOne ≤ r.units) := by
  obtain ⟨-,large,small⟩ := compressionRatio_bounds h
  rw [toInt_bytesSaved h]
  constructor
  · rcases lt_or_ge m.compressedSize.toInt m.uncompressedSize.toInt with saved | less
    · exact .inl (by omega)
    · exact .inr (small less)
  · rcases lt_or_ge m.uncompressedSize.toInt m.compressedSize.toInt with lost | more
    · exact .inl (by omega)
    · exact .inr (large more)

theorem bytesSaved_bounds (h : r ∈ m.compressionRatio) :
    m.bytesSaved.toInt = m.uncompressedSize.toInt-m.compressedSize.toInt ∧
      (1 < r.value → 0 < m.bytesSaved.toInt) ∧ (r.value < 1 → m.bytesSaved.toInt < 0) ∧
      (0 ≤ m.bytesSaved.toInt → 1 ≤ r.value) := by
  obtain ⟨⟨-,sign,-⟩,-⟩ := compressionRatio_bounds h
  obtain ⟨gain,loss⟩ := bytesSaved_sides h
  refine ⟨toInt_bytesSaved h,fun more => gain.resolve_right fun small => ?_,
    fun less => loss.resolve_right fun large => ?_,
    fun saved => Binary.one_le_value sign (loss.resolve_left (not_lt.mpr saved))⟩
  · exact absurd (Binary.value_le_one sign small) (not_le.mpr more)
  · exact absurd (Binary.one_le_value sign large) (not_le.mpr less)

open DecimalText

theorem bytesSaved_printed (h : r ∈ m.compressionRatio) :
    ∃ v, number? r.twoDecimals.toList = some v ∧ (1 < v → 0 < m.bytesSaved.toInt) ∧
      (v < 1 → m.bytesSaved.toInt < 0) := by
  obtain ⟨⟨finite,sign,-⟩,-⟩ := compressionRatio_bounds h
  obtain ⟨gain,loss⟩ := bytesSaved_sides h
  have read : number? r.twoDecimals.toList = some (r.hundredths/100 : ℚ) := by
    rw [Binary.number?_twoDecimals finite,sign]
    rfl
  refine ⟨_,read,fun more => gain.resolve_right fun small => ?_,
    fun less => loss.resolve_right fun large => ?_⟩
  · have most := Binary.hundredths_le (k := 1) (small.trans_eq (Nat.one_mul _).symm)
    have most : (r.hundredths : ℚ) ≤ 100 := by exact_mod_cast most
    linarith
  · have least := Binary.le_hundredths (k := 1) ((Nat.one_mul _).trans_le large)
    have least : (100 : ℚ) ≤ r.hundredths := by exact_mod_cast least
    linarith

end Footer

namespace Text

open Digits

/-- A text without letters of the words for what is no finite number. -/
def Definite (s : String) : Prop := 'N' ∉ s.toList ∧ 'f' ∉ s.toList

instance (s : String) : Decidable (Definite s) := inferInstanceAs (Decidable (_ ∧ _))

variable {s : String}

theorem Definite.not_spelled (h : Definite s) :
    ¬ "NaN".toList <:+: s.toList ∧ ¬ "inf".toList <:+: s.toList :=
  ⟨fun nan => h.1 (nan.subset (by decide)),fun inf => h.2 (inf.subset (by decide))⟩

@[simp] theorem definite_append (a b : String) : Definite (a++b) ↔ Definite a ∧ Definite b := by
  simp only [Definite,String.toList_append,List.mem_append,not_or]
  tauto

@[simp] theorem definite_toString (s : String) : Definite (toString s) ↔ Definite s := Iff.rfl

@[simp] theorem definite_nat (n : Nat) : Definite (toString n) := by
  change 'N' ∉ n.repr.toList ∧ 'f' ∉ n.repr.toList
  rw [Nat.toList_repr]
  exact ⟨notMem_toDigits rfl n,notMem_toDigits rfl n⟩

@[simp] theorem definite_int (i : Int) : Definite (toString i) := by
  have other {c : Char} (digit : c.isDigit = false) (minus : c ≠ '-') : c ∉ (toString i).toList := by
    rw [toList_toString,List.mem_append,not_or]
    exact ⟨by split_ifs <;> simp [minus],notMem_toDigits digit _⟩
  exact ⟨other rfl (by decide),other rfl (by decide)⟩

@[simp] theorem definite_word (w : Int64) : Definite (toString w) := definite_int w.toInt

theorem definite_twoDecimals {f : BinaryFormat} {x : Binary f} (finite : x.isFinite) :
    Definite x.twoDecimals := by
  have other {c : Char} (digit : c.isDigit = false) (minus : c ≠ '-') (point : c ≠ '.') :
      c ∉ x.twoDecimals.toList := by
    rw [Binary.toList_twoDecimals finite,List.mem_append,not_or]
    refine ⟨by split_ifs <;> simp [minus],?_⟩
    simp [notMem_toDigits digit,point]
  exact ⟨other rfl (by decide) (by decide),other rfl (by decide) (by decide)⟩

end Text

namespace Report

open Text

def sizeLines (m : Footer) : List String :=
  fileSizeLines m++(m.rowGroups.mapIdx rowGroupLines).flatten++totalLines m++
  (m.rowGroups.take 1).flatMap fun g => g.chunks.flatMap chunkSizeLines

theorem chunkSizeLines_sublist (i : Nat) (c : ColumnChunk) :
    (chunkSizeLines c).Sublist (chunkLines i c) := by
  refine List.sublist_append_of_sublist_left (List.sublist_append_of_sublist_left ?_)
  exact List.sublist_append_right ..

theorem flatMap_sublist_mapIdx {α β : Type} {f : α → List β} {g : Nat → α → List β}
    (h : ∀ i x, (f x).Sublist (g i x)) (xs : List α) : (xs.flatMap f).Sublist (xs.mapIdx g).flatten := by
  induction xs generalizing g with
  | nil => exact .slnil
  | cons x xs ih =>
    rw [List.flatMap_cons,List.mapIdx_cons,List.flatten_cons]
    exact (h 0 x).append (ih fun i => h (i+1))

theorem sizeLines_sublist (t : Table) :
    (sizeLines t.footer).Sublist (metadataLines t++firstGroupLines t.footer.rowGroups) := by
  have first : ((t.footer.rowGroups.take 1).flatMap fun g => g.chunks.flatMap chunkSizeLines).Sublist
      (firstGroupLines t.footer.rowGroups) := by
    unfold firstGroupLines
    cases t.footer.rowGroups with
    | nil => exact List.nil_sublist _
    | cons g groups =>
      rw [List.take_one,List.head?_cons,Option.toList_some,List.flatMap_singleton]
      exact (flatMap_sublist_mapIdx chunkSizeLines_sublist _).trans (List.sublist_append_right ..)
  have file : (fileSizeLines t.footer).Sublist (fileLines t.footer) :=
    List.sublist_append_of_sublist_left (List.sublist_append_right ..)
  unfold sizeLines metadataLines
  refine List.Sublist.append (.append (.append ?_ (.refl _)) (.refl _)) first
  exact file.trans ((List.sublist_append_right ..).trans (List.sublist_append_left ..))

variable {ratio : Option Double}

theorem definite_of_mem_map {text : Double → String} (finite : ∀ r ∈ ratio, r.isFinite)
    (h : ∀ r, Definite r.twoDecimals → Definite (text r)) :
    ∀ line ∈ (ratio.map text).toList, Definite line := by
  intro line figure
  obtain ⟨r,present,rfl⟩ := Option.map_eq_some_iff.mp (Option.mem_toList.mp figure)
  exact h r (definite_twoDecimals (finite r present))

theorem definite_rowGroupLines {g : RowGroup} (i : Nat)
    (finite : ∀ r ∈ g.compressionRatio, r.isFinite) : ∀ line ∈ rowGroupLines i g, Definite line := by
  refine List.forall_mem_append.mpr ⟨?_,definite_of_mem_map finite fun r text => ?_⟩
  · simp +decide only [List.forall_mem_cons,definite_append,definite_nat,definite_word,and_self]
  · simp +decide only [definite_append,definite_word,definite_toString,text,and_self]

theorem definite_totalLines {m : Footer} (finite : ∀ r ∈ m.compressionRatio, r.isFinite)
    (average : m.averageRowSize.isFinite) : ∀ line ∈ totalLines m, Definite line := by
  refine List.forall_mem_append.mpr ⟨List.forall_mem_append.mpr
    ⟨?_,definite_of_mem_map finite fun r text => ?_⟩,List.forall_mem_singleton.mpr ?_⟩
  · simp +decide only [List.forall_mem_cons,definite_append,definite_word,and_self]
  · simp +decide only [definite_append,definite_word,definite_toString,text,and_self]
  · simp +decide only [definite_append,definite_toString,definite_twoDecimals average,and_self]

theorem definite_chunkSizeLines {c : ColumnChunk} (finite : ∀ r ∈ c.compressionRatio, r.isFinite) :
    ∀ line ∈ chunkSizeLines c, Definite line := by
  refine List.forall_mem_append.mpr ⟨?_,definite_of_mem_map finite fun r text => ?_⟩
  · simp +decide only [List.forall_mem_cons,definite_append,definite_word,and_self]
  · simp +decide only [definite_append,definite_toString,text,and_self]

end Report

namespace Footer

open DecimalText Text

variable {m : Footer}

theorem ratios (m : Footer) :
    PresentWhenPositive m.compressionRatio m.uncompressedSize.toInt m.compressedSize.toInt ∧
    (∀ g ∈ m.rowGroups,
      PresentWhenPositive g.compressionRatio g.uncompressedSize.toInt g.compressedSize.toInt) ∧
    ∀ c ∈ m.chunks,
      PresentWhenPositive c.compressionRatio c.uncompressedSize.toInt c.compressedSize.toInt :=
  ⟨presentWhenPositive_compressionRatio ..,fun _ _ => presentWhenPositive_compressionRatio ..,
    fun _ _ => presentWhenPositive_compressionRatio ..⟩

theorem definite_sizeLines (bytes : m.fileSize < 2^64) :
    ∀ line ∈ Report.sizeLines m, Definite line := by
  obtain ⟨file,groups,chunks⟩ := m.ratios
  simp only [Report.sizeLines,List.forall_mem_append]
  refine ⟨⟨⟨?_,fun line h => ?_⟩,?_⟩,fun line h => ?_⟩
  · have figure := definite_twoDecimals (isFinite_fileMegabytes bytes)
    simp +decide only [Report.fileSizeLines,List.forall_mem_cons,definite_append,definite_nat,
      definite_toString,figure,and_self]
  · obtain ⟨lines,hl,mem⟩ := List.mem_flatten.mp h
    obtain ⟨i,hi,rfl⟩ := List.mem_mapIdx.mp hl
    exact Report.definite_rowGroupLines i
      (fun r hr => ((groups _ (List.getElem_mem hi)).finite r hr).1) line mem
  · exact Report.definite_totalLines (fun r hr => (file.finite r hr).1) (averageRowSize_bounds bytes).1
  · obtain ⟨g,hg,h⟩ := List.mem_flatMap.mp h
    obtain ⟨c,hc,mem⟩ := List.mem_flatMap.mp h
    have held : c ∈ m.chunks := List.mem_flatMap.mpr ⟨g,List.mem_of_mem_take hg,hc⟩
    exact Report.definite_chunkSizeLines (fun r hr => ((chunks c held).finite r hr).1) line mem

/-- What the sizes of a file are and what the report says of them: totals are sums over all chunks, in
whatever groups, and those of a group over its own as far as they are words; a ratio stands beside
every two positive sizes, and nowhere else, and neither it nor its text is on the other side of one
than the bytes saved. No line of sizes holds a number that is not finite. -/
theorem sizes_agree (m : Footer) (fits : m.SizesFit) :
    ((m.numRows.toInt = (m.rowGroups.map (·.numRows.toInt)).sum ∧
        m.uncompressedSize.toInt = (m.chunks.map (·.uncompressedSize.toInt)).sum ∧
        m.compressedSize.toInt = (m.chunks.map (·.compressedSize.toInt)).sum) ∧
      (∀ g ∈ m.rowGroups,
        (FitsLong (g.chunks.map (·.uncompressedSize.toInt)).sum →
          g.uncompressedSize.toInt = (g.chunks.map (·.uncompressedSize.toInt)).sum) ∧
        (FitsLong (g.chunks.map (·.compressedSize.toInt)).sum →
          g.compressedSize.toInt = (g.chunks.map (·.compressedSize.toInt)).sum)) ∧
      ∀ m' : Footer, m'.chunks.Perm m.chunks →
        m'.uncompressedSize = m.uncompressedSize ∧ m'.compressedSize = m.compressedSize) ∧
    (PresentWhenPositive m.compressionRatio m.uncompressedSize.toInt m.compressedSize.toInt ∧
      (∀ g ∈ m.rowGroups,
        PresentWhenPositive g.compressionRatio g.uncompressedSize.toInt g.compressedSize.toInt) ∧
      ∀ c ∈ m.chunks,
        PresentWhenPositive c.compressionRatio c.uncompressedSize.toInt c.compressedSize.toInt) ∧
    (∀ r ∈ m.compressionRatio,
      (m.bytesSaved.toInt = m.uncompressedSize.toInt-m.compressedSize.toInt ∧
        (1 < r.value → 0 < m.bytesSaved.toInt) ∧ (r.value < 1 → m.bytesSaved.toInt < 0) ∧
        (0 ≤ m.bytesSaved.toInt → 1 ≤ r.value)) ∧
      s!"  Overall compression: {r.twoDecimals}x (saved {m.bytesSaved} bytes)" ∈ Report.totalLines m ∧
      number? (toString m.bytesSaved).toList = some (m.bytesSaved.toInt : ℚ) ∧
      ∃ v, number? r.twoDecimals.toList = some v ∧ (1 < v → 0 < m.bytesSaved.toInt) ∧
        (v < 1 → m.bytesSaved.toInt < 0)) ∧
    (m.averageRowSize.isFinite ∧ 0 ≤ m.averageRowSize.value) ∧
    (∀ t : Table, t.footer = m → (Report.sizeLines m).Sublist
      (Report.metadataLines t++Report.firstGroupLines m.rowGroups)) ∧
    ∀ line ∈ Report.sizeLines m,
      ¬ "NaN".toList <:+: line.toList ∧ ¬ "inf".toList <:+: line.toList := by
  obtain ⟨finite,sign⟩ := averageRowSize_bounds fits.fileSize
  refine ⟨⟨fits.totals,fun g _ => ⟨toInt_sum_of_fits,toInt_sum_of_fits⟩,
      fun m' => sizes_eq_of_perm⟩,m.ratios,
    fun r present => ⟨bytesSaved_bounds present,?_,number?_toString _,bytesSaved_printed present⟩,
    ⟨finite,Binary.value_nonneg sign⟩,?_,
    fun line h => (definite_sizeLines fits.fileSize line h).not_spelled⟩
  · have line : (m.compressionRatio.map fun r =>
        s!"  Overall compression: {r.twoDecimals}x (saved {m.bytesSaved} bytes)").toList =
        [s!"  Overall compression: {r.twoDecimals}x (saved {m.bytesSaved} bytes)"] := by
      rw [Option.mem_def.mp present]
      rfl
    rw [Report.totalLines,line]
    simp
  · rintro t rfl
    exact Report.sizeLines_sublist t

/-- A double does not tell the two sizes apart: the ratio is one, and the byte between them is saved. -/
theorem sizes_agree_of_one_byte :
    let chunk (uncompressed compressed : Int64) : ColumnChunk :=
      ⟨"a","INT64","SNAPPY",1,compressed,uncompressed,4,none⟩
    let m : Footer := ⟨none,1,100,50,[],
      [⟨1,1,0,[chunk (2^53) (2^53+1)]⟩,⟨0,2,0,[chunk 3 (-1),chunk (-2) 0]⟩]⟩
    m.SizesFit ∧ m.bytesSaved.toInt = 1 ∧ ∃ r ∈ m.compressionRatio, r.value = 1 ∧
      ∃ v, number? r.twoDecimals.toList = some v ∧ (1 < v → 0 < m.bytesSaved.toInt) ∧
        (v < 1 → m.bytesSaved.toInt < 0) := by
  intro chunk m
  have fits : m.SizesFit := by
    constructor <;> decide
  obtain ⟨-,⟨file,-⟩,agree,-⟩ := sizes_agree m fits
  obtain ⟨r,present⟩ := Option.isSome_iff_exists.mp (file.isSome_iff.mpr (by decide))
  obtain ⟨-,-,-,printed⟩ := agree r present
  have one : ∀ r ∈ m.compressionRatio, r.value = 1 := by decide +kernel
  exact ⟨fits,by decide,r,present,one r present,printed⟩

end Footer
end ColumnarReport
