import ColumnarReport.Template.Literal
import ColumnarReport.Proofs.Digits

/-! Integer literals as Java reads them: decimal digits without a leading zero, perhaps negated, and
perhaps with the suffix of a long, within the range of their type. Integers of 64 bits are written
so that they are read back, up to the greatest long. -/
namespace ColumnarReport

open Digits

namespace Java

inductive IntegerType
  | int
  | long
  deriving DecidableEq

def IntegerType.bound : IntegerType → Nat
  | int => 2^31
  | long => 2^63

/-- Decimal digits; more than one begin with another digit than zero. -/
def IsNumeral (digits : List Char) : Prop :=
  digits ≠ [] ∧ (∀ c ∈ digits, c.isDigit) ∧ (digits.head? = some '0' → digits = ['0'])

instance (digits : List Char) : Decidable (IsNumeral digits) := inferInstanceAs (Decidable (_ ∧ _ ∧ _))

def signed : List Char → Bool × List Char
  | '-' :: rest => (true,rest)
  | text => (false,text)

def typed (text : List Char) : IntegerType × List Char :=
  if text.getLast? = some 'L' then (.long,text.dropLast) else (.int,text)

/-- The type and the number of an integer expression. The literal of the number one beyond the
greatest is allowed where it is negated. -/
def readInteger (text : List Char) : Option (IntegerType × Int) :=
  let (negative,unsigned) := signed text
  let (type,digits) := typed unsigned
  let n := Nat.ofDigitChars 10 digits 0
  if IsNumeral digits ∧ n < type.bound+negative.toNat then some (type,if negative then -n else n)
  else none

def sign (negative : Bool) : List Char := if negative then ['-'] else []

def suffix : IntegerType → List Char
  | .int => []
  | .long => ['L']

theorem isNumeral_toDigits (n : Nat) : IsNumeral (Nat.toDigits 10 n) := by
  refine ⟨Nat.toDigits_ne_nil,fun c => Nat.isDigit_of_mem_toDigits (by decide) (by decide),?_⟩
  intro zero
  rcases Nat.eq_zero_or_pos n with rfl | positive
  · rfl
  · exact (head?_toDigits positive zero).elim

/-- A sign is read from an expression unless another minus begins what it stands before. -/
theorem signed_sign (negative : Bool) {text : List Char} (h : ∀ rest, text ≠ '-' :: rest) :
    signed (sign negative++text) = (negative,text) := by
  cases negative with
  | true => rfl
  | false =>
    change signed text = _
    unfold signed
    split
    next rest => exact (h rest rfl).elim
    next => rfl

theorem typed_suffix (type : IntegerType) {digits : List Char} (h : 'L' ∉ digits) :
    typed (digits++suffix type) = (type,digits) := by
  cases type with
  | long => simp [typed,suffix]
  | int =>
    have last : digits.getLast? ≠ some 'L' := fun last => h (List.mem_of_getLast? last)
    simp [typed,suffix,last]

theorem readInteger_digits (negative : Bool) (n : Nat) (type : IntegerType) :
    readInteger (sign negative++(Nat.toDigits 10 n++suffix type)) =
      if n < type.bound+negative.toNat then some (type,if negative then -(n : Int) else n) else none := by
  have minus : '-' ∉ Nat.toDigits 10 n++suffix type := by
    cases type <;> simp [suffix,notMem_toDigits (show '-'.isDigit = false from rfl)]
  have first : ∀ rest, Nat.toDigits 10 n++suffix type ≠ '-' :: rest := fun rest same =>
    minus (same ▸ List.mem_cons_self)
  have long : 'L' ∉ Nat.toDigits 10 n := notMem_toDigits rfl n
  simp only [readInteger,signed_sign negative first,typed_suffix type long,isNumeral_toDigits,
    Nat.ofDigitChars_ten_toDigits,true_and]

end Java

namespace Template

open Java

def FitsInt (i : Int) : Prop := -2^31 ≤ i ∧ i < 2^31

instance (i : Int) : Decidable (FitsInt i) := inferInstanceAs (Decidable (_ ∧ _))

/-- The least type that holds an integer of 64 bits. -/
def leastType (i : Int) : IntegerType := if FitsInt i then .int else .long

theorem toList_javaInteger (i : Int) : (javaInteger i).toList =
    sign (decide (i < 0))++(Nat.toDigits 10 i.natAbs++suffix (leastType i)) := by
  have text : (toString i).toList = sign (decide (i < 0))++Nat.toDigits 10 i.natAbs := by
    simp only [toList_toString,sign,decide_eq_true_eq]
  have range : (Int32.minValue.toInt ≤ i ∧ i ≤ Int32.maxValue.toInt) ↔ FitsInt i := by
    have least : Int32.minValue.toInt = -2^31 := by decide
    have greatest : Int32.maxValue.toInt = 2^31-1 := by decide
    rw [least,greatest,FitsInt]
    omega
  unfold javaInteger leastType
  by_cases fits : FitsInt i
  · rw [if_pos (range.mpr fits),if_pos fits,text,suffix,List.append_nil]
  · rw [if_neg (mt range.mp fits),if_neg fits,String.toList_append,text,List.append_assoc]
    rfl

/-- Read with the least type that holds it, an integer is its literal's number if it is a long. -/
theorem readInteger_javaInteger {i : Int} (low : -2^63 ≤ i) :
    readInteger (javaInteger i).toList = if i < 2^63 then some (leastType i,i) else none := by
  have number : (if decide (i < 0) then -(i.natAbs : Int) else i.natAbs) = i := by
    by_cases negative : i < 0
    · simp only [negative,decide_true,if_true]
      omega
    · simp only [negative,decide_false,Bool.false_eq_true,if_false]
      omega
  have bound : i.natAbs < (leastType i).bound+(decide (i < 0)).toNat ↔ i < 2^63 := by
    have sign : ((decide (i < 0)).toNat : Int) = if i < 0 then 1 else 0 := by
      by_cases negative : i < 0 <;> simp [negative]
    by_cases fits : FitsInt i
    · rw [leastType,if_pos fits,IntegerType.bound]
      unfold FitsInt at fits
      omega
    · rw [leastType,if_neg fits,IntegerType.bound]
      unfold FitsInt at fits
      omega
  rw [toList_javaInteger,readInteger_digits,number]
  by_cases within : i < 2^63
  · rw [if_pos (bound.mpr within),if_pos within]
  · rw [if_neg (mt bound.mp within),if_neg within]

theorem suffix_mem_javaInteger (i : Int) : 'L' ∈ (javaInteger i).toList ↔ ¬ FitsInt i := by
  have digits : 'L' ∉ Nat.toDigits 10 i.natAbs := notMem_toDigits rfl _
  rw [toList_javaInteger,leastType]
  by_cases negative : i < 0 <;> by_cases fits : FitsInt i <;>
    simp [negative,fits,sign,suffix,digits]

/-- The literal is an expression of the least type for the integer, with a suffix only where that
type is long. -/
def ReadsAs (literal : String) (i : Int) : Prop :=
  readInteger literal.toList = some (leastType i,i) ∧ ('L' ∈ literal.toList ↔ ¬ FitsInt i)

/-- The literal of an integer cell is read back as its integer up to the greatest long, which no
signed cell exceeds. The literal of a greater integer is none. -/
theorem readInteger_javaLiteral {c : Cell} {i : Int} (h : c.integer? = some i) :
    (i < 2^63 → ReadsAs (javaLiteral c) i) ∧
      (2^63 ≤ i → (∃ v, c = .uint v) ∧ readInteger (javaLiteral c).toList = none) := by
  cases c with
  | int v =>
    obtain rfl := Option.some.inj h
    have low := v.le_toInt
    have high := v.toInt_lt
    refine ⟨fun within => ?_,fun past => by omega⟩
    exact ⟨(readInteger_javaInteger low).trans (if_pos within),suffix_mem_javaInteger _⟩
  | uint v =>
    obtain rfl := Option.some.inj h
    have low : -2^63 ≤ (v.toNat : Int) := by omega
    refine ⟨fun within => ?_,fun past => ⟨⟨v,rfl⟩,?_⟩⟩
    · exact ⟨(readInteger_javaInteger low).trans (if_pos within),suffix_mem_javaInteger _⟩
    · exact (readInteger_javaInteger low).trans (if_neg (by omega))
  | null | bool | float | text | other => cases h

theorem readInteger_javaLiteral_of_ends :
    readInteger (javaLiteral (.int (-9223372036854775808))).toList = some (.long,-9223372036854775808) ∧
    readInteger (javaLiteral (.uint 2147483648)).toList = some (.long,2147483648) ∧
    readInteger (javaLiteral (.uint 9223372036854775807)).toList = some (.long,9223372036854775807) ∧
    readInteger (javaLiteral (.uint 9223372036854775808)).toList = none := by
  have least : (Cell.int (-9223372036854775808)).integer? = some (-9223372036854775808) := rfl
  have beyond : (Cell.uint 2147483648).integer? = some 2147483648 := rfl
  have greatest : (Cell.uint 9223372036854775807).integer? = some 9223372036854775807 := rfl
  have past : (Cell.uint 9223372036854775808).integer? = some 9223372036854775808 := rfl
  exact ⟨((readInteger_javaLiteral least).1 (by decide)).1,
    ((readInteger_javaLiteral beyond).1 (by decide)).1,
    ((readInteger_javaLiteral greatest).1 (by decide)).1,
    ((readInteger_javaLiteral past).2 (by decide)).2⟩

theorem javaLiteral_past_long :
    javaLiteral (.uint 18446744073709551615) = "18446744073709551615L" ∧
      readInteger (javaLiteral (.uint 18446744073709551615)).toList = none := by
  refine ⟨by cbv,?_⟩
  exact (readInteger_javaInteger (i := 18446744073709551615) (by decide)).trans (if_neg (by decide))

end Template
end ColumnarReport
