import Mathlib
import ColumnarReport.Arrow.Decode
import ColumnarReport.Proofs.TypeNames

/-! Which columns have numeric statistics. The name of a type decides whether they are given, and
the type itself decides what its cells are: both single out the same four types. -/
namespace ColumnarReport

namespace NumericStatistics

variable {cells : List Cell} {n : NumericStatistics}

theorem foldl_mem {pick : Cell → Cell → Cell} (h : ∀ a b, pick a b = a ∨ pick a b = b)
    (first : Cell) (rest : List Cell) : rest.foldl pick first ∈ first :: rest := by
  induction rest generalizing first with
  | nil => simp
  | cons a rest ih =>
    have later := ih (pick first a)
    rw [List.foldl_cons]
    rcases h first a with e | e
    · rw [e] at later ⊢
      rcases List.mem_cons.mp later with kept | behind
      · rw [kept]
        exact List.mem_cons_self
      · exact List.mem_cons_of_mem first (List.mem_cons_of_mem a behind)
    · rw [e] at later ⊢
      exact List.mem_cons_of_mem first later

/-- The ends of a range are cells of the list. -/
theorem ends_mem (first : Cell) (rest : List Cell) :
    leastOf first rest ∈ first :: rest ∧ greatestOf first rest ∈ first :: rest := by
  constructor <;>
  · refine foldl_mem (fun a b => ?_) first rest
    split_ifs <;> simp

def numbers (cells : List Cell) : List Cell := cells.filter (·.number?.isSome)

theorem ofCells_eq_none_iff : ofCells cells = none ↔ numbers cells = [] := by
  unfold ofCells numbers
  cases cells.filter (·.number?.isSome) <;> simp

theorem ofCells_eq_some (h : ofCells cells = some n) :
    n.least ∈ numbers cells ∧ n.greatest ∈ numbers cells ∧
      (n.average.isSome ↔ 2 ≤ (numbers cells).length) := by
  unfold ofCells at h
  unfold numbers
  cases hn : cells.filter (·.number?.isSome) with
  | nil => simp [hn] at h
  | cons first rest =>
    rw [hn] at h
    obtain rfl := Option.some.inj h
    refine ⟨(ends_mem first rest).1,(ends_mem first rest).2,?_⟩
    change (averageOf (first :: rest)).isSome ↔ 1 < (first :: rest).length
    unfold averageOf
    split_ifs with many
    · exact iff_of_true rfl many
    · exact iff_of_false (by simp) many

/-- All cells but nulls are of one kind, and so are the ends of their range. -/
structure OfKind (kind : Cell → Prop) (cells : List Cell) (n : NumericStatistics) : Prop where
  all : ∀ c ∈ cells, c ≠ .null → kind c
  least : n.least ∈ cells ∧ kind n.least
  greatest : n.greatest ∈ cells ∧ kind n.greatest

end NumericStatistics

namespace Arrow

open NumericStatistics

variable {t : ScalarType} {f : t.Carrier → Cell} {values : List (Option t.Carrier)} {cs : List Cell}

theorem numbers_cells (number : ∀ v, (f v).number?.isSome) (values : List (Option t.Carrier)) :
    numbers (values.map fun v => (v.map f).getD .null) = values.reduceOption.map f := by
  induction values with
  | nil => rfl
  | cons v values ih =>
    cases v with
    | none => simpa [numbers,Cell.number?] using ih
    | some v => simpa [numbers,number v] using ih

/-- How many slots are not null. -/
def presentCount {t : DataType} (s : Slots t) : Nat :=
  (List.range s.length).countP fun i => !s.isNull i

theorem presentCount_scalar (values : List (Option t.Carrier)) :
    presentCount (.scalar values) = values.reduceOption.length := by
  have slots : (List.range values.length).map (fun i => values[i]?.join) = values := by
    apply List.ext_getElem (by simp)
    intro i hi hj
    simp [hj]
  rw [List.reduceOption_length_eq,← List.countP_eq_length_filter,presentCount,Slots.length]
  nth_rewrite 3 [← slots]
  rw [List.countP_map]
  congr 1
  funext i
  simp [Slots.isNull]

/-- The statistics of the cells are those of the slots that are not null, all of one kind. -/
def Summarize {t : DataType} (kind : Cell → Prop) (s : Slots t) (cs : List Cell) : Prop :=
  ((ofCells cs).isSome ↔ 0 < presentCount s) ∧
    ∀ n, ofCells cs = some n → n.OfKind kind cs ∧ (n.average.isSome ↔ 2 ≤ presentCount s)

def DataType.GivesNumbers (kind : Cell → Prop) (t : DataType) : Prop :=
  ∃ (number : ScalarType) (f : number.Carrier → Cell), t = .scalar number ∧
    direct? number = some f ∧ ∀ v, kind (f v) ∧ (f v).number?.isSome

theorem DataType.givesNumbers (t : DataType) :
    (t.HoldsIntegers → t.GivesNumbers fun c => ∃ v, c = .int v) ∧
      (t.HoldsFloats → t.GivesNumbers fun c => ∃ v, c = .float v) := by
  constructor <;> rintro (rfl | rfl) <;> exact ⟨_,_,rfl,rfl,fun v => ⟨⟨_,rfl⟩,rfl⟩⟩

theorem not_holdsFloats_of_holdsIntegers {t : DataType} (h : t.HoldsIntegers) :
    ¬ t.HoldsFloats := by
  rcases h with rfl | rfl <;> simp [DataType.HoldsFloats]

/-- A column with cells has details, with statistics if its name is a numeric one. -/
theorem details_ofColumn {c : Column} (nonempty : c.cells ≠ []) (index : Nat) :
    ∃ d, (ColumnSummary.ofColumn index c).details = some d ∧
      d.numeric = if c.typeName ∈ Column.numericTypes then ofCells c.cells else none := by
  refine ⟨_,if_neg (by simpa using nonempty),?_⟩
  simp [Column.isNumeric]

section

variable [ZoneDatabase]

theorem length_shownCells {t : DataType} {s : Slots t} {cs : List Cell}
    (h : shownCells s = .ok cs) : cs.length = s.length := by
  unfold shownCells at h
  cases hf : t.fault? with
  | some e => simp [hf] at h
  | none =>
    rw [hf] at h
    obtain rfl := Except.ok.inj h
    simp

theorem length_cells {t : DataType} {s : Slots t} {cs : List Cell} (h : cells s = .ok cs) :
    cs.length = s.length := by
  unfold cells at h
  split at h
  next n =>
    obtain rfl := Except.ok.inj h
    simp [Slots.length]
  next t values =>
    split at h
    next f hf =>
      obtain rfl := Except.ok.inj h
      simp [Slots.length]
    next hf => exact length_shownCells h
  next => exact length_shownCells h

theorem cells_scalar (hf : direct? t = some f) :
    cells (.scalar values) = .ok (values.map fun v => (v.map f).getD .null) := by
  simp only [cells,hf]

theorem summarize_of_direct {kind : Cell → Prop} (hf : direct? t = some f) (hk : ∀ v, kind (f v))
    (number : ∀ v, (f v).number?.isSome) (decoded : cells (.scalar values) = .ok cs) :
    Summarize kind (.scalar values) cs := by
  obtain rfl := Except.ok.inj ((cells_scalar hf).symm.trans decoded)
  have hn := numbers_cells number values
  have member {c : Cell} (h : c ∈ numbers (values.map fun v => (v.map f).getD .null)) :
      c ∈ values.map (fun v => (v.map f).getD .null) ∧ kind c := by
    refine ⟨List.mem_of_mem_filter h,?_⟩
    rw [hn] at h
    obtain ⟨v,-,rfl⟩ := List.mem_map.mp h
    exact hk v
  rw [Summarize,presentCount_scalar]
  refine ⟨?_,?_⟩
  · rw [Option.isSome_iff_ne_none,Ne,ofCells_eq_none_iff,hn,← Ne,← List.length_pos_iff,
      List.length_map]
  · intro n h
    obtain ⟨least,greatest,average⟩ := ofCells_eq_some h
    refine ⟨⟨?_,member least,member greatest⟩,?_⟩
    · intro c hc present
      obtain ⟨v,-,rfl⟩ := List.mem_map.mp hc
      cases v with
      | none => exact (present rfl).elim
      | some v => exact hk v
    · rw [average,hn,List.length_map]

theorem DataType.GivesNumbers.summarize {kind : Cell → Prop} {t : DataType}
    (h : t.GivesNumbers kind) {s : Slots t} (decoded : cells s = .ok cs) : Summarize kind s cs := by
  obtain ⟨number,f,rfl,direct,numbers⟩ := h
  cases s with
  | scalar values =>
    exact summarize_of_direct direct (fun v => (numbers v).1) (fun v => (numbers v).2) decoded

/-- Statistics are there exactly for a numeric type with a slot that is not null, over cells of the
one kind that the type stands for. -/
theorem numeric_ofColumn {t : DataType} (s : Slots t) (index : Nat) (name : String) {cs : List Cell}
    (decoded : cells s = .ok cs) (filled : 0 < s.length) :
    ∃ d, (ColumnSummary.ofColumn index ⟨name,t.reportName,cs⟩).details = some d ∧
      (d.numeric.isSome ↔
        (t.HoldsIntegers ∨ t.HoldsFloats) ∧ ∃ i < s.length, s.isNull i = false) ∧
      ∀ n, d.numeric = some n →
        (t.HoldsIntegers → n.OfKind (fun c => ∃ v, c = .int v) cs) ∧
        (t.HoldsFloats → n.OfKind (fun c => ∃ v, c = .float v) cs) ∧
        (n.average.isSome ↔ 2 ≤ presentCount s) := by
  have nonempty : cs ≠ [] := by
    rintro rfl
    rw [← length_cells decoded] at filled
    exact absurd filled (by simp)
  have slot : (∃ i < s.length, s.isNull i = false) ↔ 0 < presentCount s := by
    simp [presentCount,List.countP_pos_iff]
  obtain ⟨d,hd,hnumeric⟩ := details_ofColumn (c := ⟨name,t.reportName,cs⟩) nonempty index
  have numeric := t.reportName_mem_numericTypes
  refine ⟨d,hd,?_⟩
  rw [slot]
  by_cases integers : t.HoldsIntegers
  · have floats := not_holdsFloats_of_holdsIntegers integers
    obtain ⟨present,statistics⟩ := (t.givesNumbers.1 integers).summarize decoded
    rw [if_pos (numeric.mpr (.inl integers))] at hnumeric
    rw [hnumeric]
    refine ⟨by simpa [integers] using present,fun n hn => ?_⟩
    exact ⟨fun _ => (statistics n hn).1,fun h => (floats h).elim,(statistics n hn).2⟩
  by_cases floats : t.HoldsFloats
  · obtain ⟨present,statistics⟩ := (t.givesNumbers.2 floats).summarize decoded
    rw [if_pos (numeric.mpr (.inr floats))] at hnumeric
    rw [hnumeric]
    refine ⟨by simpa [floats] using present,fun n hn => ?_⟩
    exact ⟨fun h => (integers h).elim,fun _ => (statistics n hn).1,(statistics n hn).2⟩
  · have other : t.reportName ∉ Column.numericTypes := fun h => (numeric.mp h).elim integers floats
    rw [if_neg other] at hnumeric
    simp [hnumeric,integers,floats]

end

/-- An hour ahead of universal time, and two hours in the summer of 2024. -/
def parisOffset (second : Int) : Int :=
  if 1711846800 ≤ second ∧ second < 1729990800 then 7200 else 3600

/-- Universal time, and a zone as it was in 2024. -/
@[reducible] def parisZones : ZoneDatabase where
  offset? zone :=
    if zone = "UTC" then some fun _ => 0
    else if zone = "Europe/Paris" then some parisOffset
    else none

attribute [local instance] parisZones

def momentsIn (zone : String) : Slots (.scalar (.timestamp .second (some zone))) :=
  .scalar [some (.wrap 64 1719835200),none,some (.wrap 64 1704110400)]

/-- Two of three slots hold numbers, so there are statistics with an average. Moments in a zone are
texts and have none. -/
theorem numeric_ofColumn_of_three_slots :
    let seven : FixedInt true 32 := .wrap 32 7
    let s : Slots (.scalar (.integer .int32)) := .scalar [some seven,none,some seven]
    (cells s = .ok [.int 7,.null,.int 7] ∧
      ∃ d, (ColumnSummary.ofColumn 0 ⟨"id","int32",[.int 7,.null,.int 7]⟩).details = some d ∧
        d.numeric.isSome ∧ ∀ n, d.numeric = some n → n.average.isSome) ∧
    ∃ cs d, cells (momentsIn "Europe/Paris") = .ok cs ∧
      (ColumnSummary.ofColumn 0
        ⟨"at",DataType.reportName (.scalar (.timestamp .second (some "Europe/Paris"))),cs⟩).details =
        some d ∧ d.numeric.isSome = false := by
  intro seven s
  have decoded : cells s = .ok [.int 7,.null,.int 7] := rfl
  obtain ⟨d,hd,present,statistics⟩ := numeric_ofColumn s 0 "id" decoded (by decide)
  refine ⟨⟨decoded,d,hd,present.mpr ⟨.inl (.inl rfl),0,by decide,rfl⟩,fun n hn => ?_⟩,?_⟩
  · exact (statistics n hn).2.2.mpr (by decide)
  · have decoded : cells (momentsIn "Europe/Paris") =
        .ok [.other "2024-07-01T14:00:00+02:00",.null,.other "2024-01-01T13:00:00+01:00"] := rfl
    obtain ⟨d,hd,present,-⟩ := numeric_ofColumn (momentsIn "Europe/Paris") 0 "at" decoded (by decide)
    refine ⟨_,d,decoded,hd,Bool.eq_false_iff.mpr fun some => ?_⟩
    obtain ⟨(h | h) | (h | h),-⟩ := present.mp some <;> cases h

end Arrow
end ColumnarReport
