import Mathlib
import ColumnarReport.Program
import ColumnarReport.Proofs.CommandWords
import ColumnarReport.Proofs.Sections

/-! One run of the program, from its words to its exit code and what it prints. Without operands it
explains itself, with operands that are none it explains what is wrong, and else it inspects the
first one; where the flag for chunks stands makes a difference only to which of two faults is
named. -/
namespace ColumnarReport

open CommandLine

namespace Passage

theorem ending_append_eq_error {a b : Passage} {e : InspectError} (h : (a++b).ending = .error e) :
    a.ending = .error e ∨ b.ending = .error e := by
  rcases a with ⟨text,ending⟩
  cases ending with
  | ok => exact .inr h
  | error f => exact .inl h

end Passage

namespace Report

theorem ending_rows_ne {t : Table} {call offset len : Nat} (e : PreviewError) :
    (rows t call offset len).ending ≠ .error (.preview e) := by
  rw [rows]
  cases t.render call offset len <;> simp [Passage.whole,Passage.fault]

theorem ending_preview_ne {t : Table} {w : PreviewWindow} (e : PreviewError) :
    (preview t w).ending ≠ .error (.preview e) := by
  cases w with
  | all count =>
    rw [preview,Passage.whole_append]
    exact ending_rows_ne e
  | split head tailOffset tail =>
    rw [preview,Passage.whole_append]
    intro h
    rcases Passage.ending_append_eq_error h with first | last
    · exact ending_rows_ne e first
    · exact ending_rows_ne e last

theorem ending_template_ne {path : Path} {t : Table} (e : PreviewError) :
    (template path t).ending ≠ .error (.preview e) := by
  rw [template]
  cases Template.ofTable path t.numRows t.columns <;> simp [Passage.whole,Passage.fault]

end Report

theorem result_inspect_ne_preview {o : InspectOptions} (h : 0 < o.maxRows) (source : Source)
    (path : Path) (e : PreviewError) :
    (inspect source path o .unlimited).result ≠ .error (.preview e) := by
  cases hl : source path with
  | error f =>
    rw [inspect_of_load_error h hl]
    cases f <;> simp [InspectError.ofLoad]
  | ok t =>
    have hw := PreviewWindow.select_of_pos h t.numRows
    rw [inspect_of_neverFails h hl hw ⟨rfl,rfl⟩,Report.ending_passage]
    intro refused
    rcases Passage.ending_append_eq_error refused with inPreview | below
    · exact Report.ending_preview_ne e inPreview
    rcases Passage.ending_append_eq_error below with inTemplate | inClosing
    · exact Report.ending_template_ne e inTemplate
    · cases inClosing

theorem Path.display_ofString (s : String) : (Path.ofString s).display = s :=
  Utf8.decodeLossy_encode s

/-- What the program makes of an inspection of the file that an argument names: the report alone
where it is whole, and else what was written of it, one message, and a trace unless the file is not
found. -/
structure Outcome.Reports (o : Outcome) (argument : String) (run : Inspection) : Prop where
  loads : o.loads = run.loads
  code : o.code = if run.result = .ok () then 0 else 1
  whole : run.result = .ok () → o.out = run.sink.taken ∧ o.err = []
  notFound : ∀ q, run.result = .error (.notFound q) →
    o.out = run.sink.taken++Utf8.encode ("Error: File not found: "++argument++"\n") ∧ o.err = []
  failed : ∀ e, run.result = .error e → (∀ q, e ≠ .notFound q) →
    o.out = run.sink.taken++Utf8.encode ("Error inspecting file: "++e.message++"\n") ∧
    o.err = Utf8.encode (Program.trace (.ofString argument) e) ∧ o.err ≠ []

namespace Program

theorem length_trace_pos (path : Path) (e : InspectError) : 0 < (trace path e).length := by
  unfold trace
  simp only [String.length_append]
  have ended : 0 < "\n".length := by decide
  omega

theorem encode_trace_ne_nil (path : Path) (e : InspectError) : Utf8.encode (trace path e) ≠ [] := by
  intro empty
  have none : trace path e = "" := Utf8.encode_inj (empty.trans Utf8.encode_empty.symm)
  have long := length_trace_pos path e
  rw [none] at long
  cases long

variable {source : Source} {path : Path} {o : InspectOptions} {run : Inspection}

/-- An inspection as the program sees it through. -/
theorem inspect_of_ok (hrun : ColumnarReport.inspect source path o .unlimited = run)
    (h : run.result = .ok ()) : inspect source path o = ⟨0,run.sink.taken,[],run.loads⟩ := by
  simp only [inspect,hrun,h]

theorem inspect_of_error {e : InspectError}
    (hrun : ColumnarReport.inspect source path o .unlimited = run) (h : run.result = .error e) :
    inspect source path o =
      ⟨1,run.sink.taken++Utf8.encode (failure path e).1,Utf8.encode (failure path e).2,run.loads⟩ := by
  simp only [inspect,hrun,h]

theorem failure_of_other {e : InspectError} (other : ∀ q, e ≠ .notFound q) (path : Path) :
    failure path e = ("Error inspecting file: "++e.message++"\n",trace path e) := by
  cases e with
  | notFound q => exact (other q rfl).elim
  | source | preview | template | write => rfl

theorem failure_of_notFound (argument : String) (q : Path) :
    failure (.ofString argument) (.notFound q) =
      ("Error: File not found: "++argument++"\n","") := by
  have message : failure (.ofString argument) (.notFound q) =
      ("Error: File not found: "++(Path.ofString argument).display++"\n","") := rfl
  rw [message,Path.display_ofString]

theorem reports_inspect (source : Source) (argument : String) (o : InspectOptions) :
    (inspect source (.ofString argument) o).Reports argument
      (ColumnarReport.inspect source (.ofString argument) o .unlimited) := by
  generalize hrun : ColumnarReport.inspect source (.ofString argument) o .unlimited = run
  cases hr : run.result with
  | ok =>
    rw [inspect_of_ok hrun hr]
    exact {
      loads := rfl
      code := (if_pos hr).symm
      whole := fun _ => ⟨rfl,rfl⟩
      notFound := fun q h => by cases hr.symm.trans h
      failed := fun e h => by cases hr.symm.trans h }
  | error e =>
    rw [inspect_of_error hrun hr]
    exact {
      loads := rfl
      code := (if_neg (by simp [hr])).symm
      whole := fun h => by cases hr.symm.trans h
      notFound := fun q h => by
        obtain rfl : e = .notFound q := Except.error.inj (hr.symm.trans h)
        rw [failure_of_notFound]
        exact ⟨rfl,Utf8.encode_empty⟩
      failed := fun f h other => by
        obtain rfl : e = f := Except.error.inj (hr.symm.trans h)
        rw [failure_of_other other]
        exact ⟨rfl,rfl,encode_trace_ne_nil _ _⟩ }

end Program

namespace Program
variable {source : Source} {args args' : List String}

theorem run_of_usageError {e : UsageError} (h : Command.ofWords args = .error e) :
    run source args = ⟨2,[],Utf8.encode e.message,0⟩ := by
  rw [run,h]

theorem run_of_nothing (h : Command.ofWords args = .ok .nothing) :
    run source args = ⟨1,Utf8.encode fullHelp,[],0⟩ := by
  rw [run,h]

theorem run_of_inspect {path : String} {limit : Nat} {chunks : Bool}
    (h : Command.ofWords args = .ok (.inspect path limit chunks)) :
    run source args = inspect source (.ofString path) ⟨limit,chunks⟩ := by
  rw [run,h]

theorem run_congr (h : Command.ofWords args = Command.ofWords args') :
    run source args = run source args' := by
  rw [run,run,h]

/-- A run by its words, which are operands but for the flag for chunks. The place of the flag counts
only where three words or more hold a second one that is no limit: which of the two faults is named
depends on whether the flag stands right behind that word. -/
theorem run_of_words (source : Source) (before after : List String) (chunks : Bool)
    (operands : ∀ w ∈ before++after, IsOperand w) :
    let ws := before++after
    let outcome := run source (withFlag chunks before after)
    (ws = [] → outcome = ⟨1,Utf8.encode fullHelp,[],0⟩) ∧
    (3 ≤ ws.length ∨ (∃ l, ws[1]? = some l ∧ ∀ n, ¬ IsLimit l n) →
      ∃ e : UsageError, outcome = ⟨2,[],Utf8.encode e.message,0⟩) ∧
    (∀ w n, ws = [w] ∧ n = 20 ∨ (∃ l, ws = [w,l] ∧ IsLimit l n) →
      let inspection := ColumnarReport.inspect source (.ofString w) ⟨n,chunks⟩ .unlimited
      (∀ e, inspection.result ≠ .error (.preview e)) ∧ outcome.Reports w inspection) ∧
    (∀ before' after', before'++after' = ws →
      (3 ≤ ws.length → ∀ l, ws[1]? = some l → ∃ n, IsLimit l n) →
      run source (withFlag chunks before' after') = outcome) ∧
    ∀ path limit word rest, ws = path :: limit :: word :: rest → (∀ n, ¬ IsLimit limit n) →
      (chunks = true ∧ before = [path,limit] →
        ∃ e, outcome.err = Utf8.encode (UsageError.invalidLimit limit e).message) ∧
      (¬ (chunks = true ∧ before = [path,limit]) →
        outcome.err = Utf8.encode (UsageError.unexpected word false none .nothing).message) := by
  intro ws outcome
  refine ⟨?_,?_,?_,?_,?_⟩
  · intro none
    have command := ofWords_of_limited operands chunks (by simp [show before++after = [] from none])
    exact run_of_nothing (command.trans (congrArg _ none))
  · intro refused
    obtain ⟨e,fault⟩ := ofWords_refused operands chunks refused
    exact ⟨e,run_of_usageError fault⟩
  · intro w n h inspection
    obtain ⟨command,positive⟩ :
        Command.ofWords (withFlag chunks before after) = .ok (.inspect w n chunks) ∧ 0 < n := by
      rcases h with ⟨hw,rfl⟩ | ⟨l,hw,hl⟩
      · exact ⟨ofWords_of_path operands chunks hw,by decide⟩
      · exact ⟨ofWords_of_path_limit operands chunks hw hl,hl.pos⟩
    refine ⟨result_inspect_ne_preview positive source _,?_⟩
    rw [show outcome = _ from run_of_inspect command]
    exact reports_inspect source w ⟨n,chunks⟩
  · -- Both places lead to the command of the words alone.
    intro before' after' same limited
    have here := ofWords_of_limited operands chunks limited
    have there : Command.ofWords (withFlag chunks before' after') = command chunks (before'++after') :=
      ofWords_of_limited (same ▸ operands) chunks (same ▸ limited)
    exact run_congr (there.trans ((congrArg _ same).trans here.symm))
  · intro path limit word rest hw none
    refine ⟨?_,fun elsewhere => ?_⟩
    · rintro ⟨rfl,rfl⟩
      obtain ⟨e,fault⟩ := ofWords_of_exposed operands none
      exact ⟨e,congrArg Outcome.err (run_of_usageError fault)⟩
    · have hidden : ¬ FlagExposes chunks before := by
        rintro ⟨set,path',limit',rfl,-⟩
        obtain ⟨rfl,rfl,-⟩ : path' = path ∧ limit' = limit ∧ _ := by simpa [ws] using hw
        exact elsewhere ⟨set,rfl⟩
      have settled := ofWords_of_not_exposed operands chunks (.inl hidden)
      exact congrArg Outcome.err (run_of_usageError (settled.trans (congrArg _ hw)))

theorem run_of_words_of_largest_limit :
    let source : Source := fun p => .error (.notFound p)
    let outcome := run source ["data","--chunks","+18446744073709551615"]
    outcome.out = Utf8.encode "Error: File not found: data\n" ∧ outcome.err = [] ∧
      outcome.code = 1 ∧ outcome.loads = 1 ∧
      run source ["--chunks","data","+18446744073709551615"] = outcome := by
  intro source outcome
  have operands : ∀ w ∈ ["data"]++["+18446744073709551615"], IsOperand w := by
    simp only [List.cons_append,List.nil_append,List.forall_mem_cons]
    exact ⟨⟨'d',_,rfl,by decide⟩,⟨'+',_,rfl,by decide⟩,by simp⟩
  obtain ⟨n,positive,limit⟩ : ∃ n, 0 < n ∧ IsLimit "+18446744073709551615" n :=
    ⟨2^64-1,by decide,['1','8','4','4','6','7','4','4','0','7','3','7','0','9','5','5','1','6','1','5'],
      .inr rfl,by decide,by simp,by decide +kernel,by decide,by decide⟩
  obtain ⟨-,-,inspected,placed,-⟩ :=
    run_of_words source ["data"] ["+18446744073709551615"] true operands
  obtain ⟨-,reports⟩ := inspected "data" n (.inr ⟨"+18446744073709551615",rfl,limit⟩)
  have missing : ColumnarReport.inspect source (.ofString "data") ⟨n,true⟩ .unlimited =
      ⟨1,.unlimited,.error (.notFound (.ofString "data"))⟩ :=
    inspect_of_load_error (e := .notFound _) positive rfl _
  rw [missing] at reports
  obtain ⟨out,err⟩ := reports.notFound _ rfl
  exact ⟨out,err,reports.code,reports.loads,placed [] ["data","+18446744073709551615"] rfl (by simp)⟩

/-- A third word is not refused before the flag has brought to light that the second is no limit, so
the place of the flag is not always forgotten. -/
theorem run_of_flag_behind_word :
    let source : Source := fun p => .error (.notFound p)
    (∀ w ∈ ["data","few","rows"], IsOperand w) ∧
      run source ["data","few","--chunks","rows"] ≠ run source ["data","few","rows","--chunks"] := by
  intro source
  refine ⟨?_,?_⟩
  · simp only [List.forall_mem_cons]
    exact ⟨⟨'d',_,rfl,by decide⟩,⟨'f',_,rfl,by decide⟩,⟨'r',_,rfl,by decide⟩,by simp⟩
  · rw [run_of_usageError (e := .invalidLimit "few" .invalidDigit) rfl,
      run_of_usageError (e := .unexpected "rows" false none .nothing) rfl]
    intro same
    have messages := Utf8.encode_inj (congrArg Outcome.err same)
    revert messages
    decide +kernel

end Program
end ColumnarReport
