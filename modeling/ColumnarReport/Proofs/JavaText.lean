import Mathlib
import ColumnarReport.Template
import ColumnarReport.Proofs.MethodWords
import ColumnarReport.Proofs.QuotedText

/-! The pieces of generated source text: each stays on its line whatever it is made from, and a
string literal ends at its own closing quote. -/
namespace ColumnarReport
namespace Template

open Text

theorem lineFeed_notMem_escapeJava (c : Char) : '\n' ∉ escapeJava c := by
  intro h
  unfold escapeJava at h
  split_ifs at h <;> grind

/-- What is escaped is read back, whatever follows it. -/
theorem escapeJava_append_inj {c d : Char} {r s : List Char}
    (h : escapeJava c++r = escapeJava d++s) : c = d ∧ r = s := by
  unfold escapeJava at h
  split_ifs at h <;> grind

theorem escapeJava_append_ne_quote (c : Char) (r s : List Char) :
    escapeJava c++r ≠ '"' :: s := by
  unfold escapeJava
  split_ifs <;> simp [*]

/-- A string literal ends at its closing quote and nowhere before. -/
theorem javaString_append_inj {a b r s : String} (h : javaString a++r = javaString b++s) :
    a = b ∧ r = s := by
  have escaped : a.toList.flatMap escapeJava ++ '"' :: r.toList =
      b.toList.flatMap escapeJava ++ '"' :: s.toList := by
    simpa [javaString] using String.toList_inj.mpr h
  obtain ⟨text,rest⟩ := escaped_append_inj escapeJava_append_inj escapeJava_append_ne_quote escaped
  exact ⟨String.toList_inj.mp text,String.toList_inj.mp rest⟩

theorem javaString_inj {a b : String} (h : javaString a = javaString b) : a = b :=
  (javaString_append_inj (congrArg (·++"") h)).1

theorem oneLine_javaString (s : String) : OneLine (javaString s) := by
  rw [javaString,oneLine_ofList]
  simp [lineFeed_notMem_escapeJava]

theorem oneLine_javaInteger (i : Int) : OneLine (javaInteger i) := by
  unfold javaInteger
  split_ifs <;> simp +decide

theorem oneLine_javaLiteral (value : Cell) : OneLine (javaLiteral value) := by
  cases value with
  | null => decide
  | bool v => cases v <;> decide
  | int v => exact oneLine_javaInteger _
  | uint v => exact oneLine_javaInteger _
  | float v => exact (FloatStyle.bare_write _ v).oneLine
  | text v => exact oneLine_javaString v
  | other v => exact oneLine_javaString v

theorem oneLine_targetType (typeName : String) : OneLine (targetType typeName) := by
  have table : ∀ t ∈ targetTypes, OneLine t.2 := by decide
  simp only [targetType]
  split
  next t ht => exact table t (List.mem_of_find?_eq_some ht)
  next => decide

/-- Words are made of letters and digits, and a case mapping makes no line feed of those. -/
theorem lineFeed_notMem_joinWords (fresh : Bool) (cs : List Char) : '\n' ∉ joinWords fresh cs := by
  intro h
  obtain ⟨c,-,alpha,made⟩ := exists_of_mem_joinWords h
  have feed : isAlphanumeric '\n' = false := by decide +kernel
  have same : '\n' = c := eq_of_mem_case (by decide) (by decide) made
  rw [← same] at alpha
  exact Bool.eq_false_iff.mp feed alpha

theorem oneLine_camelName (stem : String) : OneLine (camelName stem) := by
  have test : OneLine "test" := by decide
  simp [camelName,test,lineFeed_notMem_joinWords]

end Template
end ColumnarReport
