import Mathlib
import ColumnarReport.Template
import ColumnarReport.Proofs.Utf8

/-! Which paths have a template: those that end in a name, where the name is text. The template is
then made from the name, whatever stands before it. -/
namespace ColumnarReport

/-- The last component of the path is an ordinary name, and it is text. -/
def Path.HasTextName (p : Path) : Prop :=
  ∃ name : String, p.components.getLast? = some (.name (Utf8.encode name))

theorem Path.fileName_eq_some_iff {p : Path} {n : List UInt8} :
    p.fileName = some n ↔ p.components.getLast? = some (.name n) := by
  unfold fileName
  cases p.components.getLast? with
  | none => simp
  | some c => cases c <;> simp

namespace Template

variable {path : Path} {totalRows : Nat} {columns : List Column}

theorem ofTable_of_name {name : String}
    (h : path.components.getLast? = some (.name (Utf8.encode name))) (totalRows : Nat)
    (columns : List Column) :
    ofTable path totalRows columns = .ok (ofName name totalRows columns) := by
  rw [ofTable,Path.fileName_eq_some_iff.mpr h,Option.bind_some,Utf8.decode?_encode]

theorem ofTable_of_not_hasTextName (h : ¬ path.HasTextName) (totalRows : Nat)
    (columns : List Column) : ofTable path totalRows columns = .error (.noFileName path) := by
  unfold ofTable
  cases hname : path.fileName.bind Utf8.decode? with
  | none => rfl
  | some name =>
    obtain ⟨bytes,hbytes,htext⟩ := Option.bind_eq_some_iff.mp hname
    have last := Path.fileName_eq_some_iff.mp hbytes
    rw [← Utf8.decode?_eq_some_iff.mp htext] at last
    exact (h ⟨name,last⟩).elim

theorem ofTable_eq_ok {t : Template} (h : ofTable path totalRows columns = .ok t) :
    ∃ name, t = ofName name totalRows columns := by
  by_cases named : path.HasTextName
  · obtain ⟨name,hname⟩ := named
    rw [ofTable_of_name hname] at h
    exact ⟨name,(Except.ok.inj h).symm⟩
  · rw [ofTable_of_not_hasTextName named] at h
    cases h

end Template
end ColumnarReport
