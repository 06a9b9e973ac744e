import Mathlib
import ColumnarReport.Proofs.LimitText

/-! How operands and the flag for chunks are read. A reading goes from left to right and remembers
its words and whether the flag was among them, so the place of the flag is forgotten, except that
the flag makes the operand before it be checked at once: behind a second word that is no limit it
brings that fault to light before a third word is refused. -/
namespace ColumnarReport
namespace CommandLine

/-- A word that is no option. -/
def IsOperand (word : String) : Prop := ∃ c rest, word.toList = c :: rest ∧ c ≠ '-'

def command (chunks : Bool) : List String → Except UsageError Command
  | [] => .ok .nothing
  | [path] => .ok (.inspect path PreviewWindow.defaultLimit chunks)
  | [path,limit] =>
    match readLimit limit with
    | .error e => .error (.invalidLimit limit e)
    | .ok n => .ok (.inspect path n chunks)
  | _ :: _ :: word :: _ => .error (.unexpected word false none .nothing)

namespace Reading

/-- What is so at each point of reading operands: there are at most two of them, and a limit that
was checked is one. -/
structure Sound (r : Reading) : Prop where
  operands : ∀ w ∈ r.words, IsOperand w
  few : r.words.length ≤ 2
  checked : ∀ l, r.checked[1]? = some l → ∃ n, readLimit l = .ok n

variable {r : Reading} {word : String}

theorem checkOperand_path (h : IsOperand word) : checkOperand 0 word = .ok () := by
  obtain ⟨c,rest,chars,-⟩ := h
  have some : word ≠ "" := by
    rintro rfl
    simp at chars
  rw [checkOperand,if_pos rfl,if_neg some]

theorem settle_of_short (h : r.Sound) (short : r.words.length < 2) :
    r.settle = .ok ⟨r.words,none,r.chunks⟩ := by
  rcases r with ⟨checked,pending,chunks⟩
  cases pending with
  | none => simp [settle,words]
  | some word =>
    obtain rfl : checked = [] := by simpa [words] using short
    simp [settle,words,checkOperand_path (h.operands word (by simp [words]))]

theorem settle_of_limit {path limit : String} (h : r.Sound) (hw : r.words = [path,limit]) :
    r.settle =
      match readLimit limit with
      | .error e => .error (.invalidLimit limit e)
      | .ok _ => .ok ⟨[path,limit],none,r.chunks⟩ := by
  rcases r with ⟨checked,pending,chunks⟩
  cases pending with
  | none =>
    obtain rfl : checked = [path,limit] := by simpa [words] using hw
    obtain ⟨n,hn⟩ := h.checked limit rfl
    simp [settle,hn]
  | some word =>
    have parts : checked++[word] = [path]++[limit] := hw
    obtain ⟨rfl,rfl⟩ : checked = [path] ∧ word = limit := by
      simpa using List.append_inj' parts rfl
    cases hn : readLimit word <;> simp [settle,checkOperand,hn]

theorem finish_eq_command (h : r.Sound) : r.finish = command r.chunks r.words := by
  match hw : r.words with
  | [] =>
    rw [finish,settle_of_short h (by simp [hw])]
    simp [hw,command]
  | [path] =>
    rw [finish,settle_of_short h (by simp [hw])]
    simp [hw,command]
  | [path,limit] =>
    rw [finish,settle_of_limit h hw,command]
    cases hn : readLimit limit <;> simp [hn]
  | _ :: _ :: _ :: _ =>
    have few := h.few
    simp [hw] at few

theorem addWord_of_operand (r : Reading) (operand : IsOperand word) :
    word ≠ "--" ∧ r.addWord word = (r.addOperand word).map .inr := by
  obtain ⟨c,rest,chars,other⟩ := operand
  refine ⟨?_,?_⟩
  · rintro rfl
    cases chars
    exact other rfl
  · unfold addWord
    split
    next dash => exact (other (List.cons.inj (chars.symm.trans dash)).1).elim
    next dash => exact (other (List.cons.inj (chars.symm.trans dash)).1).elim
    next => rfl

theorem read_operand_of_short (h : r.Sound) (short : r.words.length < 2) (operand : IsOperand word)
    (rest : List String) :
    r.read (word :: rest) = (⟨r.words,some word,r.chunks⟩ : Reading).read rest := by
  obtain ⟨dashes,added⟩ := r.addWord_of_operand operand
  have room : r.words.length < Operand.all.length := short
  rw [read,if_neg dashes,added,addOperand,if_pos room,settle_of_short h short]
  rfl

theorem read_operand_of_full (full : r.words.length = 2) (operand : IsOperand word)
    (rest : List String) :
    r.read (word :: rest) = .error (.unexpected word false none .nothing) := by
  obtain ⟨dashes,added⟩ := r.addWord_of_operand operand
  have noRoom : ¬ r.words.length < Operand.all.length := full.not_lt
  rw [read,if_neg dashes,added,addOperand,if_neg noRoom]
  rfl

theorem Sound.operand (h : r.Sound) (short : r.words.length < 2) (operand : IsOperand word) :
    (⟨r.words,some word,r.chunks⟩ : Reading).Sound where
  operands := by
    intro w hw
    rcases List.mem_append.mp hw with old | new
    · exact h.operands w old
    · obtain rfl := List.mem_singleton.mp new
      exact operand
  few := by
    change (r.words++[word]).length ≤ 2
    rw [List.length_append]
    exact short
  checked := fun l hl => by
    obtain ⟨two,-⟩ := List.getElem?_eq_some_iff.mp hl
    exact (short.not_ge two).elim

theorem Sound.settled (h : r.Sound) (checked : ∀ l, r.words[1]? = some l → ∃ n, readLimit l = .ok n)
    (chunks : Bool) : (⟨r.words,none,chunks⟩ : Reading).Sound where
  operands := by simpa [words] using h.operands
  few := by simpa [words] using h.few
  checked := checked

/-- Without a flag to come, the words decide. -/
theorem read_operands (h : r.Sound) {rest : List String} (operands : ∀ w ∈ rest, IsOperand w) :
    r.read rest = command r.chunks (r.words++rest) := by
  induction rest generalizing r with
  | nil => rw [read,finish_eq_command h,List.append_nil]
  | cons word rest ih =>
    obtain ⟨operand,others⟩ := List.forall_mem_cons.mp operands
    rcases h.few.lt_or_eq with short | full
    · rw [read_operand_of_short h short operand,ih (h.operand short operand) others]
      simp [words]
    · rw [read_operand_of_full full operand]
      obtain ⟨path,limit,hw⟩ := List.length_eq_two.mp full
      rw [hw]
      rfl

theorem addWord_chunks (r : Reading) : r.addWord "--chunks" = r.addFlag .chunks := rfl

theorem read_flag_of_settled {ws : List String} (settled : r.settle = .ok ⟨ws,none,false⟩)
    (rest : List String) : r.read ("--chunks" :: rest) = (⟨ws,none,true⟩ : Reading).read rest := by
  have added : r.addWord "--chunks" = .ok (.inr ⟨ws,none,true⟩) := by
    simp [addWord_chunks,addFlag,settled]
  rw [read,if_neg (by decide),added]

theorem read_flag_of_fault {e : UsageError} (fault : r.settle = .error e) (rest : List String) :
    r.read ("--chunks" :: rest) = .error e := by
  have added : r.addWord "--chunks" = .error e := by simp [addWord_chunks,addFlag,fault]
  rw [read,if_neg (by decide),added]

end Reading

/-- The command of operands with the flag between them: a second operand right before the flag is
checked before a third one is read. -/
def commandWithFlag (before after : List String) : Except UsageError Command :=
  match before with
  | [_,limit] =>
    match readLimit limit with
    | .error e => .error (.invalidLimit limit e)
    | .ok _ => command true (before++after)
  | _ => command true (before++after)

/-- Both branches agree where no third operand follows, or where the second one is a limit. -/
theorem commandWithFlag_of_not_exposed {before after : List String}
    (h : ∀ path limit e, before = [path,limit] → readLimit limit = .error e → after = []) :
    commandWithFlag before after = command true (before++after) := by
  unfold commandWithFlag
  split
  next path limit =>
    cases hl : readLimit limit with
    | ok n => rfl
    | error e =>
      rw [h path limit e rfl hl]
      simp [command,hl]
  next => rfl

theorem Reading.read_with_flag {r : Reading} (h : r.Sound) (unset : r.chunks = false)
    {before after : List String} (operands : ∀ w ∈ before++after, IsOperand w) :
    r.read (before++"--chunks" :: after) = commandWithFlag (r.words++before) after := by
  induction before generalizing r with
  | nil =>
    rw [List.nil_append] at operands ⊢
    rw [List.append_nil]
    rcases h.few.lt_or_eq with short | full
    · have settled := settle_of_short h short
      rw [unset] at settled
      have none_checked (l : String) (hl : r.words[1]? = some l) : ∃ n, readLimit l = .ok n :=
        (short.not_ge (List.getElem?_eq_some_iff.mp hl).1).elim
      have wholly := read_operands (h.settled none_checked true) operands
      rw [read_flag_of_settled settled,wholly,commandWithFlag_of_not_exposed]
      · simp [words]
      · rintro path limit e hw
        simp [hw] at short
    · obtain ⟨path,limit,hw⟩ := List.length_eq_two.mp full
      have settled := settle_of_limit h hw
      rw [hw,commandWithFlag]
      -- The second operand is checked here, before a third word can be refused.
      cases hl : readLimit limit with
      | error e =>
        rw [hl] at settled
        exact read_flag_of_fault settled after
      | ok n =>
        rw [hl,unset] at settled
        have checked (l : String) (hs : r.words[1]? = some l) : ∃ n, readLimit l = .ok n := by
          obtain rfl : limit = l := by simpa [hw] using hs
          exact ⟨n,hl⟩
        have wholly := read_operands (h.settled checked true) operands
        rw [hw] at wholly
        exact (read_flag_of_settled settled after).trans wholly
  | cons word before ih =>
    obtain ⟨operand,others⟩ := List.forall_mem_cons.mp operands
    rw [List.cons_append]
    rcases h.few.lt_or_eq with short | full
    · rw [read_operand_of_short h short operand,ih (h.operand short operand) unset others]
      simp [words]
    · rw [read_operand_of_full full operand]
      obtain ⟨path,limit,hw⟩ := List.length_eq_two.mp full
      rw [hw]
      rfl

theorem Reading.sound_start : start.Sound where
  operands := by simp [start,words]
  few := by simp [start,words]
  checked := by simp [start]

theorem ofWords_of_operands {ws : List String} (operands : ∀ w ∈ ws, IsOperand w) :
    Command.ofWords ws = command false ws :=
  Reading.read_operands Reading.sound_start operands

theorem ofWords_with_flag {before after : List String}
    (operands : ∀ w ∈ before++after, IsOperand w) :
    Command.ofWords (before++"--chunks" :: after) = commandWithFlag before after :=
  Reading.read_with_flag Reading.sound_start rfl operands

def withFlag (chunks : Bool) (before after : List String) : List String :=
  before++(if chunks then ["--chunks"] else [])++after

theorem ofWords_withFlag {before after : List String}
    (operands : ∀ w ∈ before++after, IsOperand w) (chunks : Bool) :
    Command.ofWords (withFlag chunks before after) =
      if chunks then commandWithFlag before after else command false (before++after) := by
  cases chunks with
  | false =>
    have words : withFlag false before after = before++after := by simp [withFlag]
    rw [words,ofWords_of_operands operands]
    rfl
  | true =>
    have words : withFlag true before after = before++"--chunks" :: after := by simp [withFlag]
    rw [words,ofWords_with_flag operands]
    rfl

theorem readLimit_of_not_limit {limit : String} (h : ∀ n, ¬ IsLimit limit n) :
    ∃ e, readLimit limit = .error e := by
  cases hl : readLimit limit with
  | error e => exact ⟨e,rfl⟩
  | ok n => exact (h n (readLimit_eq_ok_iff.mp hl)).elim

/-- The flag stands right behind a second word that is no limit. -/
def FlagExposes (chunks : Bool) (before : List String) : Prop :=
  chunks = true ∧ ∃ path limit, before = [path,limit] ∧ ∀ n, ¬ IsLimit limit n

/-- Elsewhere the place of the flag is forgotten. -/
theorem ofWords_of_not_exposed {before after : List String}
    (operands : ∀ w ∈ before++after, IsOperand w) (chunks : Bool)
    (h : ¬ FlagExposes chunks before ∨ after = []) :
    Command.ofWords (withFlag chunks before after) = command chunks (before++after) := by
  rw [ofWords_withFlag operands]
  cases chunks with
  | false => rfl
  | true =>
    refine commandWithFlag_of_not_exposed ?_
    rintro path limit e rfl fault
    refine h.resolve_left fun hidden => hidden ⟨rfl,path,limit,rfl,fun n hn => ?_⟩
    rw [readLimit_eq_ok_iff.mpr hn] at fault
    cases fault

/-- There the word before the flag is refused, whatever follows. -/
theorem ofWords_of_exposed {path limit : String} {after : List String}
    (operands : ∀ w ∈ [path,limit]++after, IsOperand w) (h : ∀ n, ¬ IsLimit limit n) :
    ∃ e, Command.ofWords (withFlag true [path,limit] after) = .error (.invalidLimit limit e) := by
  obtain ⟨e,fault⟩ := readLimit_of_not_limit h
  refine ⟨e,?_⟩
  rw [ofWords_withFlag operands,if_pos rfl,commandWithFlag,fault]

/-- With at most two words nothing follows the flag there, and with a limit for the second word
there is no such place. -/
theorem not_exposed_of_limited {chunks : Bool} {before after : List String}
    (limited : 3 ≤ (before++after).length →
      ∀ l, (before++after)[1]? = some l → ∃ n, IsLimit l n) :
    ¬ FlagExposes chunks before ∨ after = [] := by
  by_contra h
  obtain ⟨exposed,some⟩ := not_or.mp h
  obtain ⟨-,path,limit,rfl,none⟩ := not_not.mp exposed
  have following := List.length_pos_of_ne_nil some
  have three : 3 ≤ ([path,limit]++after).length := by
    rw [List.length_append]
    exact Nat.add_le_add_left following 2
  obtain ⟨n,hn⟩ := limited three limit rfl
  exact none n hn

theorem command_of_limit {path limit : String} {n : Nat} (h : IsLimit limit n) (chunks : Bool) :
    command chunks [path,limit] = .ok (.inspect path n chunks) := by
  rw [command,readLimit_eq_ok_iff.mpr h]

theorem command_refused {ws : List String} (chunks : Bool)
    (h : 3 ≤ ws.length ∨ ∃ l, ws[1]? = some l ∧ ∀ n, ¬ IsLimit l n) :
    ∃ e, command chunks ws = .error e := by
  match ws with
  | [] | [_] => simp at h
  | [path,limit] =>
    have none : ∀ n, ¬ IsLimit limit n := by simpa using h
    obtain ⟨e,fault⟩ := readLimit_of_not_limit none
    exact ⟨.invalidLimit limit e,by rw [command,fault]⟩
  | _ :: _ :: word :: _ => exact ⟨_,rfl⟩

section
variable {before after : List String} (operands : ∀ w ∈ before++after, IsOperand w) (chunks : Bool)
include operands

theorem ofWords_of_limited
    (limited : 3 ≤ (before++after).length → ∀ l, (before++after)[1]? = some l → ∃ n, IsLimit l n) :
    Command.ofWords (withFlag chunks before after) = command chunks (before++after) :=
  ofWords_of_not_exposed operands chunks (not_exposed_of_limited limited)

theorem ofWords_refused
    (h : 3 ≤ (before++after).length ∨ ∃ l, (before++after)[1]? = some l ∧ ∀ n, ¬ IsLimit l n) :
    ∃ e, Command.ofWords (withFlag chunks before after) = .error e := by
  by_cases exposed : FlagExposes chunks before
  · obtain ⟨rfl,path,limit,rfl,none⟩ := exposed
    obtain ⟨e,fault⟩ := ofWords_of_exposed operands none
    exact ⟨_,fault⟩
  · rw [ofWords_of_not_exposed operands chunks (.inl exposed)]
    exact command_refused chunks h

theorem ofWords_of_path {path : String} (hw : before++after = [path]) :
    Command.ofWords (withFlag chunks before after) =
      .ok (.inspect path PreviewWindow.defaultLimit chunks) := by
  rw [ofWords_of_limited operands chunks (by simp [hw]),hw]
  rfl

theorem ofWords_of_path_limit {path limit : String} {n : Nat} (hw : before++after = [path,limit])
    (h : IsLimit limit n) :
    Command.ofWords (withFlag chunks before after) = .ok (.inspect path n chunks) := by
  rw [ofWords_of_limited operands chunks (by simp [hw]),hw,command_of_limit h]

end

end CommandLine
end ColumnarReport
