import Mathlib
import ColumnarReport.Proofs.Outcome

/-! A sink that fails only shortens the report. What is to be written does not depend on the sink:
one passage is delivered to all of them, and a sink with little room takes its first bytes. -/
namespace ColumnarReport

open Passage

variable {source : Source} {path : Path} {o : InspectOptions}

/-- A sink with room for so many bytes takes the first of them, and fails if there are more. -/
theorem Passage.deliver_of_limit {s : Sink} {limit : Nat} (h : s.room = some limit) (a : Passage) :
    a.deliver s =
      (if (Utf8.encode a.text).length ≤ limit then a.ending else .error (.write s.writeFault),
        { s with
          taken := s.taken++(Utf8.encode a.text).take limit
          room := some (limit-(Utf8.encode a.text).length) }) := by
  by_cases fits : (Utf8.encode a.text).length ≤ limit
  · rw [if_pos fits]
    exact deliver_of_ok (by simp [Sink.write,h,fits]) a.ending
  · rw [if_neg fits]
    exact deliver_of_error (by simp [Sink.write,h,fits]) a.ending

/-- What an inspection writes, and how often it asks for a table, is settled before the sink is
known. -/
theorem inspect_eq_deliver (source : Source) (path : Path) (o : InspectOptions) :
    ∃ (loads : Nat) (a : Passage), ∀ s : Sink, inspect source path o s =
      ⟨loads,(a.deliver s).2,(a.deliver s).1.bind fun _ => (a.deliver s).2.flush⟩ := by
  have fault (e : InspectError) (s : Sink) : (Passage.fault e).deliver s = (.error e,s) :=
    deliver_of_ok (Sink.write_empty s) _
  by_cases zero : o.maxRows = 0
  · refine ⟨0,.fault (.preview .zeroLimit),fun s => ?_⟩
    rw [inspect_of_zero source path zero,fault]
    rfl
  have positive := Nat.pos_of_ne_zero zero
  cases hl : source path with
  | error e =>
    refine ⟨1,.fault (.ofLoad e),fun s => ?_⟩
    rw [inspect_of_load_error positive hl,fault]
    rfl
  | ok t =>
    have hw := PreviewWindow.select_of_pos positive t.numRows
    exact ⟨1,Report.passage path o.showChunks t _,fun s => inspect_of_loaded positive hl hw rfl⟩

/-- A sink with a limit takes the first bytes of the report, and its fault is the result where that
is not all; a fault of flushing shows only behind a whole report; no sink changes the loads. -/
theorem inspect_truncates (source : Source) (path : Path) (o : InspectOptions) :
    let free := inspect source path o .unlimited
    (∀ limit fault,
      let cut := inspect source path o ⟨[],some limit,fault,none⟩
      cut.sink.taken = free.sink.taken.take limit ∧
      cut.result = if free.sink.taken.length ≤ limit then free.result else .error (.write fault)) ∧
    (∀ writeFault fault,
      let unflushed := inspect source path o ⟨[],none,writeFault,some fault⟩
      unflushed.sink.taken = free.sink.taken ∧
      (free.result = .ok () → unflushed.result = .error (.write fault)) ∧
      ∀ e, free.result = .error e → unflushed.result = .error e) ∧
    ∀ s, (inspect source path o s).loads = free.loads := by
  obtain ⟨loads,a,run⟩ := inspect_eq_deliver source path o
  have free := run .unlimited
  rw [deliver_of_no_limit rfl] at free
  intro report
  have result : report.result = a.ending := by
    cases h : a.ending <;> simp [report,free,h,Except.bind,Sink.flush,Sink.after,Sink.unlimited]
  have taken : report.sink.taken = Utf8.encode a.text := by
    simp [report,free,Sink.after,Sink.unlimited]
  refine ⟨?_,?_,?_⟩
  · intro limit fault cut
    have hcut := run ⟨[],some limit,fault,none⟩
    rw [deliver_of_limit rfl] at hcut
    rw [result,taken]
    by_cases fits : (Utf8.encode a.text).length ≤ limit
    · cases h : a.ending <;> simp [cut,hcut,h,fits,Except.bind,Sink.flush]
    · simp [cut,hcut,fits,Except.bind]
  · intro writeFault fault unflushed
    have hun := run ⟨[],none,writeFault,some fault⟩
    rw [deliver_of_no_limit rfl] at hun
    rw [result,taken]
    refine ⟨?_,?_,?_⟩
    · simp [unflushed,hun,Sink.after]
    · intro ok
      simp [unflushed,hun,ok,Except.bind,Sink.flush,Sink.after]
    · intro e error
      simp [unflushed,hun,error,Except.bind]
  · intro s
    simp [report,run]

end ColumnarReport
