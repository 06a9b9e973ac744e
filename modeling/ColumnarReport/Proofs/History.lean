import Mathlib
import ColumnarReport.Session
import ColumnarReport.Proofs.Outcome

/-! Sessions by their history. What a session holds under a path is what the last step on that path
left there, so an inspection is decided by the steps before it that store and remove, and by
nothing that other inspections did. -/
namespace ColumnarReport

/-- The run asks the source for the table at its path and for no other. -/
theorem inspect_congr {source source' : Source} {path : Path} (h : source path = source' path)
    (o : InspectOptions) (s : Sink) : inspect source path o s = inspect source' path o s := by
  simp only [inspect,Inspecting.inspectPath,Inspecting.load,h]

theorem loads_inspect (source : Source) (path : Path) (o : InspectOptions) (s : Sink) :
    (inspect source path o s).loads = if o.maxRows = 0 then 0 else 1 := by
  by_cases zero : o.maxRows = 0
  · rw [inspect_of_zero source path zero,if_pos zero]
  rw [if_neg zero]
  have positive := Nat.pos_of_ne_zero zero
  cases hl : source path with
  | error e => rw [inspect_of_load_error positive hl]
  | ok t =>
    have hw := PreviewWindow.select_of_pos positive t.numRows
    rw [inspect_of_loaded positive hl hw rfl]

def Source.holding (held : Option StoredTable) : Source := fun path =>
  held.getD (.error (.notFound path))

namespace SessionStep

def leaves? (path : Path) : SessionStep → Option (Option StoredTable)
  | put p table => if p.same path then some (some table) else none
  | remove p => if p.same path then some none else none
  | inspect _ _ _ => none

def asks : SessionStep → Bool
  | inspect _ o _ => o.maxRows ≠ 0
  | _ => false

end SessionStep

namespace Session

def after (s : Session) (steps : List SessionStep) : Session :=
  steps.foldl (fun s x => (s.step x).1) s

/-- What the last step on a path left there, or what the session began with. -/
def held (s : Session) (steps : List SessionStep) (path : Path) : Option StoredTable :=
  (steps.reverse.findSome? (·.leaves? path)).getD (s.find? path)

theorem after_append (s : Session) (xs ys : List SessionStep) :
    s.after (xs++ys) = (s.after xs).after ys := List.foldl_append

theorem find?_filter_same (files : List (Path × StoredTable)) (p q : Path) :
    (files.filter (!·.1.same p)).find? (·.1.same q) =
      if p.same q then none else files.find? (·.1.same q) := by
  by_cases h : p.same q = true
  · -- What stood at the place is gone, whichever of its two paths names it.
    have none_left (r : Path) : (!r.same p && r.same q) = false := by
      simp only [Path.same,decide_eq_true_eq] at h ⊢
      simp [h]
    simp [List.find?_filter,none_left,h]
  · have others (r : Path) : (!r.same p && r.same q) = r.same q := by
      simp only [Path.same,decide_eq_true_eq] at h ⊢
      grind
    simp [List.find?_filter,others,h]

theorem find?_put (s : Session) (p q : Path) (table : StoredTable) :
    (s.put p table).find? q = if p.same q then some table else s.find? q := by
  rw [find?,put,List.find?_cons,find?_filter_same]
  cases p.same q <;> rfl

theorem find?_remove (s : Session) (p q : Path) :
    (s.remove p).find? q = if p.same q then none else s.find? q := by
  rw [find?,remove,find?_filter_same]
  cases p.same q <;> rfl

theorem find?_step (s : Session) (x : SessionStep) (path : Path) :
    (s.step x).1.find? path = (x.leaves? path).getD (s.find? path) := by
  cases x with
  | put p table =>
    by_cases h : p.same path = true <;> simp [step,SessionStep.leaves?,find?_put,h]
  | remove p =>
    by_cases h : p.same path = true <;> simp [step,SessionStep.leaves?,find?_remove,h]
  | inspect p o sink => rfl

theorem find?_after (s : Session) (steps : List SessionStep) (path : Path) :
    (s.after steps).find? path = s.held steps path := by
  induction steps using List.reverseRecOn with
  | nil => rfl
  | append_singleton steps x ih =>
    rw [after_append]
    change ((s.after steps).step x).1.find? path = _
    rw [find?_step,ih,held,held,List.reverse_append]
    cases h : x.leaves? path <;> simp [h]

theorem loads_step (s : Session) (x : SessionStep) :
    (s.step x).1.loads = s.loads+if x.asks then 1 else 0 := by
  cases x with
  | put p table => rfl
  | remove p => rfl
  | inspect p o sink =>
    simp only [step,SessionStep.asks,loads_inspect]
    by_cases zero : o.maxRows = 0 <;> simp [zero]

theorem loads_after (s : Session) (steps : List SessionStep) :
    (s.after steps).loads = s.loads+steps.countP SessionStep.asks := by
  induction steps using List.reverseRecOn with
  | nil => rfl
  | append_singleton steps x ih =>
    rw [after_append]
    change ((s.after steps).step x).1.loads = _
    rw [loads_step,ih,List.countP_append,List.countP_singleton,Nat.add_assoc]

theorem run_getElem? (s : Session) (before after : List SessionStep) (x : SessionStep) :
    (s.run (before++x :: after))[before.length]? = some ((s.after before).step x) := by
  induction before generalizing s with
  | nil => rfl
  | cons y before ih => exact ih (s.step y).1

/-- Each step finds what the last step on its path left, and leaves the rest alone; the source is
asked once for each inspection with a limit; and an inspection ends as one does for which nothing
happened before. -/
theorem run_by_history (s : Session) (before after : List SessionStep) (x : SessionStep) :
    ∃ u r, (s.run (before++x :: after))[before.length]? = some (u,r) ∧
      (∀ path, u.find? path = s.held (before++[x]) path) ∧
      u.loads = s.loads+(before++[x]).countP SessionStep.asks ∧
      ∀ path o sink, x = .inspect path o sink →
        u.files = (s.after before).files ∧
        let fresh := inspect (.holding (s.held before path)) path o sink
        r = .inspected fresh.sink fresh.result := by
  refine ⟨((s.after before).step x).1,((s.after before).step x).2,run_getElem? s before after x,
    ?_,?_,?_⟩
  · intro path
    rw [← find?_after,after_append]
    rfl
  · rw [← loads_after,after_append]
    rfl
  · -- The sources differ at other paths, which an inspection does not look up.
    rintro path o sink rfl
    refine ⟨rfl,?_⟩
    have table : (s.after before).source path = Source.holding (s.held before path) path := by
      rw [source,Source.holding,find?_after]
    simp only [step,inspect_congr table]

end Session
end ColumnarReport
