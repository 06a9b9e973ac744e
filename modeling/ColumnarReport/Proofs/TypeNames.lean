import Mathlib
import ColumnarReport.Arrow.TypeName
import ColumnarReport.Column

/-! The names of types and the numeric names among them. A type with parts has a bracket in its
name, whatever the names inside it are, and no numeric name has one. -/
namespace ColumnarReport

theorem Text.paren_mem_lowercaseAfter {before cs : List Char} (h : '(' ∈ cs) :
    '(' ∈ lowercaseAfter before cs := by
  induction cs generalizing before with
  | nil => simp at h
  | cons c rest ih =>
    rw [lowercaseAfter,List.mem_append]
    rcases List.mem_cons.mp h with rfl | h
    · left
      rw [if_neg (by decide)]
      decide
    · exact .inr (ih h)

theorem Text.paren_mem_lowercase {s : String} (h : '(' ∈ s.toList) :
    '(' ∈ (lowercase s).toList := by
  simpa [lowercase] using paren_mem_lowercaseAfter h

namespace Arrow

def Bracketed (name : String) : Prop :=
  '(' ∈ name.toList ∨ '[' ∈ name.toList ∨ '<' ∈ name.toList

instance (name : String) : Decidable (Bracketed name) :=
  inferInstanceAs (Decidable ('(' ∈ name.toList ∨ '[' ∈ name.toList ∨ '<' ∈ name.toList))

theorem bracketed_append (a b : String) : Bracketed (a++b) ↔ Bracketed a ∨ Bracketed b := by
  simp only [Bracketed,String.toList_append,List.mem_append]
  tauto

theorem Bracketed.notMem_numericTypes {name : String} (h : Bracketed name) :
    name ∉ Column.numericTypes := by
  have plain : ∀ name ∈ Column.numericTypes, ¬ Bracketed name := by decide
  exact fun hm => plain name hm h

theorem bracketed_lowercase {s : String} (h : '(' ∈ s.toList) : Bracketed (Text.lowercase s) :=
  .inl (Text.paren_mem_lowercase h)

theorem ScalarType.bracketed_of_text {t : ScalarType}
    (h : (∃ unit, t = .duration unit) ∨ t = .yearMonth ∨ t = .dayTime ∨ t = .monthDayNano ∨
      ∃ width precision scale, t = .decimal width precision scale)
    (name : t.reportName = Text.lowercase t.text) : Bracketed t.reportName := by
  rw [name]
  apply bracketed_lowercase
  unfold text
  rcases h with ⟨unit,rfl⟩ | rfl | rfl | rfl | ⟨width,precision,scale,rfl⟩
  · simp only [String.toList_append,List.mem_append]
    exact .inl (.inl (by decide))
  · decide
  · decide
  · decide
  · simp only [String.toList_append,List.mem_append]
    exact .inl (.inl (.inl (.inl (.inr (by decide)))))

theorem ScalarType.bracketed_decimal (width : DecimalWidth) (precision : Nat) (scale : Int) :
    Bracketed (reportName (.decimal width precision scale)) := by
  cases width with
  | w32 => exact bracketed_of_text (by simp) rfl
  | w64 => exact bracketed_of_text (by simp) rfl
  | w128 =>
    unfold reportName
    simp only [bracketed_append]
    exact .inl (.inl (.inl (.inl (by decide))))
  | w256 =>
    unfold reportName
    simp only [bracketed_append]
    exact .inl (.inl (.inl (.inl (by decide))))

theorem ScalarType.bracketed_timestamp (unit : TimeUnit) (zone : Option String) :
    Bracketed (reportName (.timestamp unit zone)) := by
  unfold reportName
  cases zone with
  | none =>
    simp only [bracketed_append]
    exact .inl (.inl (by decide))
  | some zone =>
    simp only [bracketed_append]
    exact .inl (.inl (.inl (.inl (by decide))))

theorem ScalarType.bracketed_fixedBinary (size : Int) :
    Bracketed (reportName (.fixedBinary size)) := by
  unfold reportName
  simp only [bracketed_append]
  exact .inl (.inl (by decide))

theorem ScalarType.reportName_mem_numericTypes (t : ScalarType) :
    t.reportName ∈ Column.numericTypes ↔
      t = .integer .int32 ∨ t = .integer .int64 ∨ t = .float .single ∨ t = .float .double := by
  cases t with
  | boolean => decide
  | integer t => cases t <;> decide
  | float t => cases t <;> decide
  | utf8 storage => cases storage <;> decide
  | binary storage => cases storage <;> decide
  | fixedBinary size =>
    exact iff_of_false (bracketed_fixedBinary size).notMem_numericTypes (by simp)
  | date32 => decide
  | date64 => decide
  | time32 unit => cases unit <;> decide
  | time64 unit => cases unit <;> decide
  | timestamp unit zone =>
    exact iff_of_false (bracketed_timestamp unit zone).notMem_numericTypes (by simp)
  | duration unit =>
    exact iff_of_false (bracketed_of_text (by simp) rfl).notMem_numericTypes (by simp)
  | yearMonth => exact iff_of_false (bracketed_of_text (by simp) rfl).notMem_numericTypes (by simp)
  | dayTime => exact iff_of_false (bracketed_of_text (by simp) rfl).notMem_numericTypes (by simp)
  | monthDayNano =>
    exact iff_of_false (bracketed_of_text (by simp) rfl).notMem_numericTypes (by simp)
  | decimal width precision scale =>
    exact iff_of_false (bracketed_decimal width precision scale).notMem_numericTypes (by simp)

/-- The types whose columns have statistics over integers. -/
def DataType.HoldsIntegers (t : DataType) : Prop :=
  t = .scalar (.integer .int32) ∨ t = .scalar (.integer .int64)

def DataType.HoldsFloats (t : DataType) : Prop :=
  t = .scalar (.float .single) ∨ t = .scalar (.float .double)

theorem DataType.paren_mem_text {t : DataType} (null : t ≠ .null) (scalar : ∀ s, t ≠ .scalar s) :
    '(' ∈ t.text.toList := by
  unfold text
  cases t with
  | null => exact (null rfl).elim
  | scalar s => exact (scalar s rfl).elim
  | list kind item =>
    simp only [String.toList_append,List.mem_append]
    exact .inl (.inl (.inr (by decide)))
  | fixedSizeList item size =>
    simp only [String.toList_append,List.mem_append]
    exact .inl (.inl (.inl (.inl (by decide))))
  | struct fields =>
    simp only [String.toList_append,List.mem_append]
    exact .inl (.inl (by decide))
  | map entries sorted =>
    simp only [String.toList_append,List.mem_append]
    exact .inl (.inl (by decide))
  | dictionary key value =>
    simp only [String.toList_append,List.mem_append]
    exact .inl (.inl (.inl (.inl (by decide))))
  | runEndEncoded runEnds values =>
    simp only [String.toList_append,List.mem_append]
    exact .inl (.inl (.inl (.inl (by decide))))
  | union mode ids fields =>
    simp only [String.toList_append,List.mem_append]
    exact .inl (.inl (by decide))

/-- Every name of a type with parts opens a bracket, whatever the names of the parts are. -/
theorem DataType.bracketed_reportName {t : DataType} (null : t ≠ .null)
    (scalar : ∀ s, t ≠ .scalar s) : Bracketed t.reportName := by
  unfold reportName
  split
  next => exact (null rfl).elim
  next s => exact (scalar s rfl).elim
  next item =>
    simp only [bracketed_append]
    exact .inl (.inl (by decide))
  next item =>
    simp only [bracketed_append]
    exact .inl (.inl (by decide))
  next fields =>
    simp only [bracketed_append]
    exact .inl (.inl (by decide))
  next key _ _ value _ _ _ =>
    simp only [bracketed_append]
    exact .inl (.inl (.inl (.inl (by decide))))
  next =>
    simp only [bracketed_append]
    exact .inl (.inl (by decide))
  next key value =>
    simp only [bracketed_append]
    exact .inl (.inl (.inl (.inl (by decide))))
  next => exact bracketed_lowercase (paren_mem_text null scalar)

theorem DataType.reportName_mem_numericTypes (t : DataType) :
    t.reportName ∈ Column.numericTypes ↔ t.HoldsIntegers ∨ t.HoldsFloats := by
  by_cases null : t = .null
  · subst null
    have name : DataType.null.reportName = "null" := by
      unfold reportName
      rfl
    rw [name]
    exact iff_of_false (by decide) (by simp [HoldsIntegers,HoldsFloats])
  by_cases scalar : ∃ s, t = .scalar s
  · obtain ⟨s,rfl⟩ := scalar
    have name : (DataType.scalar s).reportName = s.reportName := by
      unfold reportName
      rfl
    rw [name,s.reportName_mem_numericTypes]
    simp [HoldsIntegers,HoldsFloats,or_assoc]
  · have other : ∀ s, t ≠ .scalar s := fun s h => scalar ⟨s,h⟩
    refine iff_of_false (bracketed_reportName null other).notMem_numericTypes ?_
    simp [HoldsIntegers,HoldsFloats,other]

end Arrow
end ColumnarReport
