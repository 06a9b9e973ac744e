import Mathlib
import ColumnarReport.Inspection

/-! Writing the report line by line is writing one text. A sink takes a run of texts as it takes
their concatenation, so every part of the report is a passage: a text, as far as the part gets,
and the way in which it ends. -/
namespace ColumnarReport

namespace Sink

def after (s : Sink) (text : String) : Sink := { s with taken := s.taken++Utf8.encode text }

theorem write_empty (s : Sink) : s.write "" = (s,.ok ()) := by
  rcases s with ⟨taken,room,fault,flushFault⟩
  cases room <;> simp [write]

/-- Behind a text that was taken whole, the next one is taken as the rest of a longer text. -/
theorem write_append_of_ok {s : Sink} {a : String} (ha : (s.write a).2 = .ok ()) (b : String) :
    s.write (a++b) = (s.write a).1.write b := by
  cases hr : s.room with
  | none => simp [write,hr,Utf8.encode_append]
  | some n =>
    have fits : (Utf8.encode a).length ≤ n := by
      by_contra hn
      simp [write,hr,hn] at ha
    have hroom : n-(Utf8.encode a).length-(Utf8.encode b).length =
        n-((Utf8.encode a).length+(Utf8.encode b).length) := by omega
    have hfit : (Utf8.encode b).length ≤ n-(Utf8.encode a).length ↔
        (Utf8.encode a).length+(Utf8.encode b).length ≤ n := by omega
    simp [write,hr,Utf8.encode_append,List.take_append,List.take_of_length_le fits,hroom,hfit]

theorem write_append_of_error {s : Sink} {a : String} {e : InspectError}
    (ha : (s.write a).2 = .error e) (b : String) : s.write (a++b) = s.write a := by
  cases hr : s.room with
  | none => simp [write,hr] at ha
  | some n =>
    have cut : ¬ (Utf8.encode a).length ≤ n := by
      intro fits
      simp [write,hr,fits] at ha
    have cutBoth : ¬ (Utf8.encode a).length+(Utf8.encode b).length ≤ n := by omega
    have hroom : n-((Utf8.encode a).length+(Utf8.encode b).length) =
        n-(Utf8.encode a).length := by omega
    have hnone : n-(Utf8.encode a).length = 0 := by omega
    simp [write,hr,Utf8.encode_append,List.take_append,hroom,hnone,cut,cutBoth]

end Sink

namespace Inspecting
variable {α β : Type}

theorem runFrom_bind (m : Inspecting α) (k : α → Inspecting β) (p : Progress) :
    (m >>= k).runFrom p =
      match m.runFrom p with
      | (.ok a,q) => (k a).runFrom q
      | (.error e,q) => (.error e,q) := by
  cases hm : m.runFrom p with
  | mk result q =>
    change m p = (result,q) at hm
    change (StateT.bind m (ExceptT.bindCont k)) p = _
    rw [StateT.bind,hm]
    cases result <;> rfl

theorem runFrom_bind_of_ok {m : Inspecting α} {p q : Progress} {a : α}
    (hm : m.runFrom p = (.ok a,q)) (k : α → Inspecting β) :
    (m >>= k).runFrom p = (k a).runFrom q := by
  rw [runFrom_bind,hm]

theorem runFrom_bind_of_error {m : Inspecting α} {p q : Progress} {e : InspectError}
    (hm : m.runFrom p = (.error e,q)) (k : α → Inspecting β) :
    (m >>= k).runFrom p = (.error e,q) := by
  rw [runFrom_bind,hm]

theorem runFrom_throw (e : InspectError) (p : Progress) :
    (throw e : Inspecting α).runFrom p = (.error e,p) := rfl

theorem runFrom_ofExcept (r : Except InspectError α) (p : Progress) :
    runFrom (ofExcept r) p = (r,p) := by cases r <;> rfl

theorem runFrom_load (source : Source) (path : Path) (p : Progress) :
    (load source path).runFrom p =
      ((source path).mapError .ofLoad,{ p with loads := p.loads+1 }) :=
  runFrom_ofExcept _ _

theorem runFrom_write (text : String) (p : Progress) :
    (write text).runFrom p =
      ((p.sink.write text).2,{ p with sink := (p.sink.write text).1 }) :=
  runFrom_ofExcept _ _

theorem runFrom_flush (p : Progress) : flush.runFrom p = (p.sink.flush,p) :=
  runFrom_ofExcept _ _

end Inspecting

/-- A part of the report: its text as far as it gets, and how it ends. -/
structure Passage where
  text : String
  ending : Except InspectError Unit

namespace Passage

def whole (text : String) : Passage := ⟨text,.ok ()⟩
def fault (e : InspectError) : Passage := ⟨"",.error e⟩

/-- One passage and then another, which is not reached behind a fault. -/
def append (a b : Passage) : Passage :=
  match a.ending with
  | .ok () => ⟨a.text++b.text,b.ending⟩
  | .error _ => a

instance : Append Passage := ⟨append⟩

@[simp] theorem whole_append (text : String) (b : Passage) :
    whole text++b = ⟨text++b.text,b.ending⟩ := rfl

@[simp] theorem append_of_error (text : String) (e : InspectError) (b : Passage) :
    (⟨text,.error e⟩ : Passage)++b = ⟨text,.error e⟩ := rfl

@[simp] theorem append_of_ok (text : String) (b : Passage) :
    (⟨text,.ok ()⟩ : Passage)++b = ⟨text++b.text,b.ending⟩ := rfl

/-- A sink takes what it can of the text. If that is all of it, the passage ends as it does. -/
def deliver (a : Passage) (s : Sink) : Except InspectError Unit × Sink :=
  match s.write a.text with
  | (s,.ok ()) => (a.ending,s)
  | (s,.error e) => (.error e,s)

theorem deliver_of_ok {s t : Sink} {text : String} (h : s.write text = (t,.ok ()))
    (ending : Except InspectError Unit) : (⟨text,ending⟩ : Passage).deliver s = (ending,t) := by
  rw [deliver,h]

theorem deliver_of_error {s t : Sink} {text : String} {e : InspectError}
    (h : s.write text = (t,.error e)) (ending : Except InspectError Unit) :
    (⟨text,ending⟩ : Passage).deliver s = (.error e,t) := by
  rw [deliver,h]

theorem deliver_of_no_limit {s : Sink} (h : s.room = none) (a : Passage) :
    a.deliver s = (a.ending,s.after a.text) :=
  deliver_of_ok (by simp [Sink.write,h,Sink.after]) a.ending

/-- Where the first passage ends well, the second is delivered behind it. -/
theorem deliver_append_of_ok {a : Passage} {s t : Sink} (ha : a.deliver s = (.ok (),t))
    (b : Passage) : (a++b).deliver s = b.deliver t := by
  rcases a with ⟨text,ending⟩
  cases hw : s.write text with
  | mk u result =>
    cases result with
    | error e =>
      rw [deliver_of_error hw] at ha
      simp at ha
    | ok =>
      rw [deliver_of_ok hw] at ha
      obtain ⟨rfl,rfl⟩ := Prod.mk.inj ha
      have hab : s.write (text++b.text) = u.write b.text := by
        simpa [hw] using Sink.write_append_of_ok (s := s) (a := text) (by rw [hw]) b.text
      rw [append_of_ok,deliver,deliver,hab]

theorem deliver_append_of_error {a : Passage} {s t : Sink} {e : InspectError}
    (ha : a.deliver s = (.error e,t)) (b : Passage) : (a++b).deliver s = (.error e,t) := by
  rcases a with ⟨text,ending⟩
  cases ending with
  | error f => simpa using ha
  | ok =>
    cases hw : s.write text with
    | mk u result =>
      cases result with
      | ok =>
        rw [deliver_of_ok hw] at ha
        simp at ha
      | error f =>
        rw [deliver_of_error hw] at ha
        have hab : s.write (text++b.text) = (u,.error f) := by
          rw [Sink.write_append_of_error (by rw [hw]),hw]
        rw [append_of_ok,deliver_of_error hab,ha]

end Passage

namespace Inspecting
variable {α : Type}

/-- From any state, the steps deliver the passage and do nothing else. -/
def Emits (m : Inspecting Unit) (a : Passage) : Prop :=
  ∀ p : Progress, m.runFrom p = ((a.deliver p.sink).1,{ p with sink := (a.deliver p.sink).2 })

theorem emits_pure : Emits (pure ()) (.whole "") := by
  intro p
  rw [Passage.whole,Passage.deliver_of_ok (Sink.write_empty p.sink)]
  rfl

theorem emits_write (text : String) : Emits (write text) (.whole text) := by
  intro p
  rw [runFrom_write]
  cases hw : p.sink.write text with
  | mk t result => cases result <;> simp [Passage.whole,Passage.deliver,hw]

theorem emits_ofExcept_bind {r : Except InspectError α} {k : α → Inspecting Unit} {a : Passage}
    (ok : ∀ x, r = .ok x → Emits (k x) a) (error : ∀ e, r = .error e → a = .fault e) :
    Emits (ofExcept r >>= k) a := by
  intro p
  cases r with
  | ok x => rw [runFrom_bind_of_ok (runFrom_ofExcept _ p),ok x rfl p]
  | error e =>
    rw [runFrom_bind_of_error (runFrom_ofExcept _ p),error e rfl,Passage.fault,
      Passage.deliver_of_ok (Sink.write_empty p.sink)]

/-- Steps in sequence deliver their passages in sequence: a fault or a full sink stops both. -/
theorem Emits.bind {m k : Inspecting Unit} {a b : Passage} (hm : Emits m a) (hk : Emits k b) :
    Emits (m >>= fun _ => k) (a++b) := by
  intro p
  have hmp := hm p
  cases ha : a.deliver p.sink with
  | mk result t =>
    rw [ha] at hmp
    cases result with
    | ok =>
      rw [runFrom_bind_of_ok hmp,hk,Passage.deliver_append_of_ok ha]
    | error e =>
      rw [runFrom_bind_of_error hmp,Passage.deliver_append_of_error ha]

theorem emits_writeLine (line : String) : Emits (writeLine line) (.whole (line++"\n")) :=
  emits_write _

theorem emits_writeLines (lines : List String) :
    Emits (writeLines lines) (.whole (Text.unlines lines)) := by
  induction lines with
  | nil => exact emits_pure
  | cons line lines ih =>
    have h := (emits_writeLine line).bind ih
    simpa [Passage.whole,Text.unlines_cons,writeLines] using h

end Inspecting
end ColumnarReport
