import Mathlib
import ColumnarReport.Proofs.JavaText

/-! String literals as Java reads them. Source text is a sequence of UTF-16 code units. A backslash
begins a Unicode escape where a `u` follows and an even number of backslashes stands before it;
these escapes are translated first, and the literal is read from what they leave. Text blocks are
not string literals and are not read. -/
namespace ColumnarReport
namespace Java

def unitsOf (c : Char) : List Nat :=
  if c.toNat < 0x10000 then [c.toNat]
  else [0xD800+(c.toNat-0x10000)/0x400,0xDC00+(c.toNat-0x10000)%0x400]

def units (cs : List Char) : List Nat := cs.flatMap unitsOf

def isUnit (u : Nat) (c : Char) : Bool := u == c.toNat

structure Source where
  /-- Whether an even number of backslashes stands directly before the text. -/
  eligible : Bool
  text : List Nat

def hexValue? (u : Nat) : Option Nat :=
  if '0'.toNat ≤ u ∧ u ≤ '9'.toNat then some (u - '0'.toNat)
  else if 'a'.toNat ≤ u ∧ u ≤ 'f'.toNat then some (u - 'a'.toNat+10)
  else if 'A'.toNat ≤ u ∧ u ≤ 'F'.toNat then some (u - 'A'.toNat+10)
  else none

def fourDigits? : List Nat → Option (Nat × List Nat)
  | a :: b :: c :: d :: rest =>
    match hexValue? a,hexValue? b,hexValue? c,hexValue? d with
    | some a,some b,some c,some d => some (((a*16+b)*16+c)*16+d,rest)
    | _,_,_,_ => none
  | _ => none

namespace Source

/-- The next code unit after the translation of Unicode escapes. An escape may have several marks,
and one without its digits is an error. -/
def next? (s : Source) : Option (Nat × Source) :=
  match s.text with
  | [] => none
  | u :: rest =>
    if isUnit u '\\' then
      if s.eligible && rest.head?.any (isUnit · 'u') then
        (fourDigits? (rest.dropWhile (isUnit · 'u'))).map fun (value,behind) => (value,⟨true,behind⟩)
      else some (u,⟨!s.eligible,rest⟩)
    else some (u,⟨true,rest⟩)

theorem length_of_fourDigits {text behind : List Nat} {value : Nat}
    (h : fourDigits? text = some (value,behind)) : behind.length < text.length := by
  unfold fourDigits? at h
  split at h
  · split at h
    · cases h
      simp
      omega
    · cases h
  · cases h

theorem length_of_next {s t : Source} {u : Nat} (h : s.next? = some (u,t)) :
    t.text.length < s.text.length := by
  unfold next? at h
  split at h
  next => cases h
  next v rest hs =>
    rw [hs]
    split_ifs at h
    · obtain ⟨⟨value,behind⟩,digits,same⟩ := Option.map_eq_some_iff.mp h
      obtain ⟨rfl,rfl⟩ := Prod.mk.inj same
      have := length_of_fourDigits digits
      have := (List.dropWhile_sublist (isUnit · 'u') (l := rest)).length_le
      simp only [List.length_cons]
      omega
    · cases h
      simp
    · cases h
      simp

def letterEscape? (u : Nat) : Option Nat :=
  [('b','\x08'),('s',' '),('t','\t'),('n','\n'),('f','\x0C'),('r','\r'),('"','"'),('\x27','\x27'),
    ('\\','\\')].findSome? fun (letter,value) => if isUnit u letter then some value.toNat else none

def octalValue? (u : Nat) : Option Nat :=
  if '0'.toNat ≤ u ∧ u ≤ '7'.toNat then some (u - '0'.toNat) else none

def moreOctal : Nat → Nat → Source → Nat × Source
  | 0,value,s => (value,s)
  | count+1,value,s =>
    match s.next? with
    | none => (value,s)
    | some (u,t) =>
      match octalValue? u with
      | none => (value,s)
      | some digit => moreOctal count (value*8+digit) t

/-- What stands behind the backslash of an escape: a letter, or up to three octal digits of a number
below 256. -/
def escape? (s : Source) : Option (Nat × Source) :=
  match s.next? with
  | none => none
  | some (u,t) =>
    match letterEscape? u,octalValue? u with
    | some value,_ => some (value,t)
    | none,some digit => some (moreOctal (if digit ≤ 3 then 2 else 1) digit t)
    | none,none => none

theorem length_moreOctal (count value : Nat) (s : Source) :
    (moreOctal count value s).2.text.length ≤ s.text.length := by
  induction count generalizing value s with
  | zero => exact le_refl _
  | succ count ih =>
    rw [moreOctal]
    split
    next => exact le_refl _
    next u t h =>
      have := length_of_next h
      split
      next => exact le_refl _
      next digit hd => exact (ih _ t).trans this.le

theorem length_of_escape {s t : Source} {value : Nat} (h : s.escape? = some (value,t)) :
    t.text.length < s.text.length := by
  unfold escape? at h
  split at h
  next => cases h
  next u r hr =>
    have shorter := length_of_next hr
    split at h
    next => cases h; exact shorter
    next digit _ _ =>
      have := length_moreOctal (if digit ≤ 3 then 2 else 1) digit r
      rw [Option.some.inj h] at this
      exact this.trans_lt shorter
    next => cases h

def literal? (s : Source) : Option (List Nat × List Nat) :=
  match hs : s.next? with
  | none => none
  | some (u,t) =>
    have := length_of_next hs
    if isUnit u '"' then some ([],t.text)
    else if isUnit u '\r' || isUnit u '\n' then none
    else if isUnit u '\\' then
      match ht : t.escape? with
      | none => none
      | some (value,r) =>
        have := length_of_escape ht
        r.literal?.map fun (values,rest) => (value :: values,rest)
    else t.literal?.map fun (values,rest) => (u :: values,rest)
termination_by s.text.length

end Source

def readString (text : List Nat) : Option (List Nat × List Nat) :=
  match Source.next? ⟨true,text⟩ with
  | some (u,t) => if isUnit u '"' then t.literal? else none
  | none => none

example : readString (units ['"','a','\\','u','0','0','2','2','+','"']) =
    some (units ['a'],units ['+','"']) := by cbv

namespace Source

variable {s t r : Source} {u value : Nat} {rest : List Nat}

theorem next?_of_ne (h : isUnit u '\\' = false) (eligible : Bool) :
    next? ⟨eligible,u :: rest⟩ = some (u,⟨true,rest⟩) := by
  simp [next?,h]

theorem next?_backslash (h : isUnit u 'u' = false) :
    next? ⟨true,'\\'.toNat :: u :: rest⟩ = some ('\\'.toNat,⟨false,u :: rest⟩) := by
  simp [next?,isUnit] at h ⊢
  exact h

/-- Behind an odd number of backslashes every code unit stands for itself. -/
theorem next?_of_not_eligible : next? ⟨false,u :: rest⟩ = some (u,⟨true,rest⟩) := by
  by_cases h : isUnit u '\\' <;> simp [next?,h]

theorem literal?_of_quote (h : s.next? = some ('"'.toNat,t)) : s.literal? = some ([],t.text) := by
  rw [literal?]
  split
  next hs => simp [h] at hs
  next u' t' hs =>
    rw [h] at hs
    cases hs
    rfl

def isPlain (u : Nat) : Bool :=
  !(isUnit u '"' || isUnit u '\r' || isUnit u '\n' || isUnit u '\\')

theorem literal?_of_plain (h : s.next? = some (u,t)) (plain : isPlain u) :
    s.literal? = t.literal?.map fun (values,rest) => (u :: values,rest) := by
  rw [literal?]
  split
  next hs => simp [h] at hs
  next u' t' hs =>
    rw [h] at hs
    cases hs
    simp_all [isPlain]

theorem literal?_of_escape (h : s.next? = some ('\\'.toNat,t)) (escape : t.escape? = some (value,r)) :
    s.literal? = r.literal?.map fun (values,rest) => (value :: values,rest) := by
  rw [literal?]
  split
  next hs => simp [h] at hs
  next u' t' hs =>
    rw [h] at hs
    cases hs
    rw [if_neg (by decide),if_neg (by decide),if_pos (by decide)]
    split
    next ht => simp [escape] at ht
    next value' r' ht =>
      rw [escape] at ht
      cases ht
      rfl

/-- A letter behind a backslash stands for the code unit of its escape. -/
theorem literal?_letter (mark : isUnit u 'u' = false) (letter : letterEscape? u = some value) :
    literal? ⟨true,'\\'.toNat :: u :: rest⟩ =
      (literal? ⟨true,rest⟩).map fun (values,behind) => (value :: values,behind) := by
  apply literal?_of_escape (next?_backslash mark)
  simp [escape?,next?_of_not_eligible,letter]

theorem literal?_plains {us : List Nat} (plain : ∀ u ∈ us, isPlain u) :
    literal? ⟨true,us++rest⟩ =
      (literal? ⟨true,rest⟩).map fun (values,behind) => (us++values,behind) := by
  induction us with
  | nil => simp
  | cons u us ih =>
    obtain ⟨hu,hus⟩ := List.forall_mem_cons.mp plain
    have next : next? ⟨true,u :: (us++rest)⟩ = some (u,⟨true,us++rest⟩) :=
      next?_of_ne (by simp_all [isPlain]) true
    rw [List.cons_append,literal?_of_plain next hu,ih hus,Option.map_map]
    rfl

end Source
end Java

namespace Template

open Java Source

theorem isUnit_of_mem_unitsOf {c d : Char} {u : Nat} (hu : u ∈ unitsOf c) (other : c ≠ d)
    (low : d.toNat < 0xD800) : isUnit u d = false := by
  unfold unitsOf at hu
  simp only [isUnit,beq_eq_false_iff_ne]
  split_ifs at hu
  · obtain rfl := List.mem_singleton.mp hu
    exact fun same => other (Char.toNat_inj.mp same)
  · simp only [List.mem_cons,List.not_mem_nil,or_false] at hu
    omega

/-- Each character is read back from what it is escaped to, and an even number of backslashes stands
before what follows it. -/
theorem literal?_escapeJava (c : Char) (rest : List Nat) :
    literal? ⟨true,units (escapeJava c)++rest⟩ =
      (literal? ⟨true,rest⟩).map fun (values,behind) => (unitsOf c++values,behind) := by
  by_cases quote : c = '"'
  · subst quote
    exact literal?_letter (by decide) (by decide)
  by_cases backslash : c = '\\'
  · subst backslash
    exact literal?_letter (by decide) (by decide)
  by_cases feed : c = '\n'
  · subst feed
    exact literal?_letter (by decide) (by decide)
  by_cases carriage : c = '\r'
  · subst carriage
    exact literal?_letter (by decide) (by decide)
  by_cases tab : c = '\t'
  · subst tab
    exact literal?_letter (by decide) (by decide)
  · have plain : ∀ u ∈ unitsOf c, isPlain u := by
      intro u hu
      simp [isPlain,isUnit_of_mem_unitsOf hu quote (by decide),
        isUnit_of_mem_unitsOf hu backslash (by decide),isUnit_of_mem_unitsOf hu feed (by decide),
        isUnit_of_mem_unitsOf hu carriage (by decide)]
    simpa [escapeJava,quote,backslash,feed,carriage,tab,units] using literal?_plains plain

theorem literal?_escaped (cs : List Char) (rest : List Nat) :
    literal? ⟨true,units (cs.flatMap escapeJava) ++ '"'.toNat :: rest⟩ = some (units cs,rest) := by
  induction cs with
  | nil => exact literal?_of_quote (next?_of_ne (by decide) true)
  | cons c cs ih =>
    have split : units ((c :: cs).flatMap escapeJava) =
        units (escapeJava c)++units (cs.flatMap escapeJava) := by
      simp [units]
    rw [split,List.append_assoc,literal?_escapeJava,ih]
    rfl

/-- An even number of backslashes ends the text, so that one more begins a Unicode escape where a `u`
follows it. -/
def Eligible (before : List Char) : Prop := Even (before.reverse.takeWhile (· = '\\')).length

theorem eligible_append_of_ne {c : Char} (h : c ≠ '\\') (before : List Char) :
    Eligible (before++[c]) := by
  simp [Eligible,h]

theorem eligible_append_backslash (before : List Char) :
    Eligible (before ++ ['\\']) ↔ ¬ Eligible before := by
  simp [Eligible,Nat.even_add_one]

theorem escapeJava_cases (c : Char) :
    escapeJava c = [c] ∧ c ≠ '\\' ∨ ∃ letter, escapeJava c = ['\\',letter] ∧ letter ≠ 'u' := by
  unfold escapeJava
  split_ifs <;> simp_all

/-- No escaped text has a Unicode escape, whatever it holds. Induction on the text, with what was
written before it ending in an even number of backslashes. -/
theorem not_eligible_escaped {cs before after behind : List Char} (start : Eligible behind)
    (h : cs.flatMap escapeJava ++ ['"'] = before ++ '\\' :: 'u' :: after) :
    ¬ Eligible (behind++before) := by
  induction cs generalizing behind before with
  | nil =>
    have := congrArg List.length h
    simp at this
    omega
  | cons c cs ih =>
    rw [List.flatMap_cons,List.append_assoc] at h
    rcases escapeJava_cases c with ⟨escaped,other⟩ | ⟨letter,escaped,other⟩
    · rw [escaped,List.singleton_append] at h
      cases before with
      | nil => exact (other (List.cons.inj h).1).elim
      | cons d before =>
        obtain ⟨rfl,more⟩ := List.cons.inj h
        simpa using ih (eligible_append_of_ne other behind) more
    · rw [escaped] at h
      simp only [List.cons_append,List.nil_append] at h
      match before with
      | [] => exact (other (List.cons.inj (List.cons.inj h).2).1).elim
      | [d] =>
        obtain ⟨rfl,-⟩ := List.cons.inj h
        simpa [eligible_append_backslash] using start
      | d :: e :: before =>
        obtain ⟨rfl,behindFirst⟩ := List.cons.inj h
        obtain ⟨rfl,more⟩ := List.cons.inj behindFirst
        have even : Eligible (behind ++ ['\\'] ++ [letter]) := by
          by_cases second : letter = '\\'
          · subst second
            rwa [eligible_append_backslash,eligible_append_backslash,not_not]
          · exact eligible_append_of_ne second _
        simpa using ih even more

/-- A string literal reads as its text, with the text behind it left as it is. No Unicode escape
begins in it, and different texts have different literals. -/
theorem readString_javaString (s rest : String) :
    readString (units (javaString s++rest).toList) = some (units s.toList,units rest.toList) ∧
    (∀ before after, (javaString s).toList = before ++ '\\' :: 'u' :: after → ¬ Eligible before) ∧
    ∀ t, javaString s = javaString t → s = t := by
  refine ⟨?_,?_,fun t => javaString_inj⟩
  · have text : units (javaString s++rest).toList =
        '"'.toNat :: (units (s.toList.flatMap escapeJava) ++ '"'.toNat :: units rest.toList) := by
      simp [javaString,units,unitsOf]
    rw [text,readString,next?_of_ne (by decide) true]
    exact literal?_escaped s.toList (units rest.toList)
  · intro before after h
    simp only [javaString,String.toList_ofList,List.cons_append] at h
    cases before with
    | nil => simp at h
    | cons c before =>
      obtain ⟨rfl,more⟩ := List.cons.inj h
      have start : Eligible ['"'] := eligible_append_of_ne (by decide) []
      exact not_eligible_escaped start more

/-- A text that spells a Unicode escape of the closing quote, before a quote of another literal. -/
theorem readString_javaString_of_escape_text :
    readString (units (javaString "\\u0022"++"+\"x\"").toList) =
        some (units "\\u0022".toList,units "+\"x\"".toList) ∧
      (javaString "\\u0022").toList = ['"','\\'] ++ '\\' :: 'u' :: ['0','0','2','2','"'] ∧
      ¬ Eligible ['"','\\'] := by
  have spelled : (javaString "\\u0022").toList =
      ['"','\\'] ++ '\\' :: 'u' :: ['0','0','2','2','"'] := by decide
  obtain ⟨reads,escapes,-⟩ := readString_javaString "\\u0022" "+\"x\""
  exact ⟨reads,spelled,escapes _ _ spelled⟩

end Template
end ColumnarReport
