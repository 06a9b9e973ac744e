import Mathlib
import ColumnarReport.CommandLine.Command

/-! Which words are limits. Digits are read from the left and refused as soon as they pass the
bound, which no later digit can undo, so a word is a limit exactly where the number that it denotes
is one. -/
namespace ColumnarReport
namespace CommandLine

def digitsValue (digits : List Char) : Nat :=
  Nat.ofDigits 10 (digits.reverse.map fun c => c.toNat-48)

/-- The word is digits, or a plus sign and digits, for a positive number of 64 bits. -/
def IsLimit (word : String) (n : Nat) : Prop :=
  ∃ digits : List Char, (word.toList = digits ∨ word.toList = '+' :: digits) ∧ digits ≠ [] ∧
    (∀ c ∈ digits, '0' ≤ c ∧ c ≤ '9') ∧ digitsValue digits = n ∧ 0 < n ∧ n < 2^64

theorem IsLimit.pos {word : String} {n : Nat} (h : IsLimit word n) : 0 < n := by
  obtain ⟨-,-,-,-,-,positive,-⟩ := h
  exact positive

theorem digitsValue_cons (c : Char) (digits : List Char) :
    digitsValue (c :: digits) = (c.toNat-48)*10^digits.length+digitsValue digits := by
  simp [digitsValue,Nat.ofDigits_append,Nat.add_comm,Nat.mul_comm]

theorem isDigit_iff (c : Char) : c.isDigit ↔ '0' ≤ c ∧ c ≤ '9' := by
  simp [Char.isDigit,Char.le_def]

/-- Digits behind a number that is within the bound. -/
theorem readDigits_eq_ok_iff {value n : Nat} {digits : List Char} (within : value < limitBound) :
    readDigits value digits = .ok n ↔ (∀ c ∈ digits, '0' ≤ c ∧ c ≤ '9') ∧
      value*10^digits.length+digitsValue digits = n ∧ n < limitBound := by
  induction digits generalizing value with
  | nil =>
    have empty : digitsValue [] = 0 := rfl
    simp only [readDigits,Except.ok.injEq,empty]
    grind
  | cons c digits ih =>
    rw [readDigits,digitsValue_cons,List.length_cons,List.forall_mem_cons,← isDigit_iff]
    by_cases digit : c.isDigit
    · rw [if_pos digit]
      have shifted : value*10^(digits.length+1)+((c.toNat-48)*10^digits.length+digitsValue digits) =
          (value*10+(c.toNat-48))*10^digits.length+digitsValue digits := by ring
      rw [shifted]
      by_cases past : limitBound ≤ value*10+(c.toNat-48)
      · -- Later digits only add to a number that is past the bound.
        have larger := Nat.le_mul_of_pos_right (value*10+(c.toNat-48))
          (Nat.pow_pos (n := digits.length) (show 0 < 10 by decide))
        simp only [if_pos past,reduceCtorEq,false_iff]
        omega
      · rw [if_neg past,ih (by omega)]
        simp only [digit,true_and]
    · simp [digit]

theorem unsigned_cases (cs : List Char) : cs = unsigned cs ∨ cs = '+' :: unsigned cs := by
  unfold unsigned
  split
  · exact .inr rfl
  · exact .inl rfl

/-- A plus sign is no digit, so digits stand as they are. -/
theorem unsigned_of_digits {cs digits : List Char} (h : cs = digits ∨ cs = '+' :: digits)
    (some : digits ≠ []) (decimal : ∀ c ∈ digits, '0' ≤ c ∧ c ≤ '9') : unsigned cs = digits := by
  obtain ⟨c,rest,rfl⟩ := List.exists_cons_of_ne_nil some
  rcases h with rfl | rfl
  · unfold unsigned
    split
    next signed => exact absurd (decimal '+' (signed ▸ List.mem_cons_self)) (by decide)
    next => rfl
  · rfl

theorem readLimit_eq_ok_iff {word : String} {n : Nat} : readLimit word = .ok n ↔ IsLimit word n := by
  have bound : limitBound = 2^64 := rfl
  have start : 0 < limitBound := by decide
  constructor
  · intro h
    simp only [readLimit] at h
    split_ifs at h with empty
    split at h
    next => cases h
    next m hm =>
      split_ifs at h with zero
      obtain rfl := Except.ok.inj h
      obtain ⟨decimal,value,below⟩ := (readDigits_eq_ok_iff start).mp hm
      exact ⟨unsigned word.toList,unsigned_cases _,empty,decimal,by omega,by omega,by omega⟩
  · rintro ⟨digits,hw,some,decimal,value,positive,below⟩
    have read : readDigits 0 digits = .ok n :=
      (readDigits_eq_ok_iff start).mpr ⟨decimal,by omega,by omega⟩
    simp only [readLimit,unsigned_of_digits hw some decimal,if_neg some,read,if_neg positive.ne']

end CommandLine
end ColumnarReport
