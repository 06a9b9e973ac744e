import ColumnarReport.Number.Style
import ColumnarReport.Proofs.Digits

/-! The texts of numbers hold letters, digits, minus signs and points, and nothing that could separate
or quote them. A text of such characters ends where the first other character stands. -/
namespace ColumnarReport
namespace Text

def isBare (c : Char) : Bool := c.isAlphanum || c = '-' || c = '.'

def Bare (s : String) : Prop := s.toList.all isBare

instance (s : String) : Decidable (Bare s) := inferInstanceAs (Decidable (_ = true))

theorem bare_iff {s : String} : Bare s ↔ ∀ c ∈ s.toList, isBare c := List.all_eq_true

theorem Bare.notMem {s : String} (h : Bare s) {c : Char} (other : isBare c = false) : c ∉ s.toList :=
  fun mem => by simp [bare_iff.mp h c mem] at other

@[simp] theorem bare_append (a b : String) : Bare (a++b) ↔ Bare a ∧ Bare b := by
  simp [Bare,List.all_append]

@[simp] theorem bare_ofList (cs : List Char) : Bare (String.ofList cs) ↔ cs.all isBare := by
  simp [Bare]

theorem all_isBare_toDigits {b : Nat} (base : 1 < b) (low : b ≤ 16) (n : Nat) :
    (Nat.toDigits b n).all isBare := by
  have bare : ∀ d < 16, isBare d.digitChar := by decide
  refine List.all_eq_true.mpr fun c mem => ?_
  obtain ⟨d,digit,rfl⟩ := Digits.digitChar_of_mem_toDigits base mem
  exact bare d (by omega)

@[simp] theorem bare_nat (n : Nat) : Bare n.repr := by
  simpa only [Bare,Nat.toList_repr] using all_isBare_toDigits (by decide) (by decide) n

@[simp] theorem bare_int (i : Int) : Bare i.repr := by
  cases i with
  | ofNat n => exact bare_nat n
  | negSucc n => exact (bare_append "-" _).mpr ⟨by decide,bare_nat (n+1)⟩

/-- Texts that end at the first character of another kind are told apart from what is behind them. -/
theorem append_inj_of_ends {p : Char → Prop} {a b r s : List Char} (ha : ∀ c ∈ a, p c)
    (hb : ∀ c ∈ b, p c) (hr : ∀ c, r.head? = some c → ¬ p c) (hs : ∀ c, s.head? = some c → ¬ p c)
    (h : a++r = b++s) : a = b ∧ r = s := by
  induction a generalizing b with
  | nil =>
    cases b with
    | nil => exact ⟨rfl,h⟩
    | cons d b => exact (hr d (congrArg List.head? h) (hb d List.mem_cons_self)).elim
  | cons c a ih =>
    cases b with
    | nil => exact (hs c (congrArg List.head? h.symm) (ha c List.mem_cons_self)).elim
    | cons d b =>
      obtain ⟨rfl,rest⟩ := List.cons.inj h
      obtain ⟨rfl,same⟩ := ih (fun c mem => ha c (.tail _ mem)) (fun d mem => hb d (.tail _ mem)) rest
      exact ⟨rfl,same⟩

end Text

namespace FloatStyle

open Text

theorem bare_zeros (n : Nat) : Bare (zeros n) := by
  have zero : isBare '0' := rfl
  rw [zeros,bare_ofList]
  simp [zero]

variable {digits : List Char}

theorem bare_plain (h : digits.all isBare) (exponent : Int) (pointZero : Bool) :
    Bare (plain digits exponent pointZero) := by
  have parts (n : Nat) : (digits.take n).all isBare ∧ (digits.drop n).all isBare := by
    rwa [← Bool.and_eq_true_iff,← List.all_append,List.take_append_drop]
  simp only [plain]
  split_ifs <;> simp +decide only [bare_append,bare_ofList,h,parts,bare_zeros,and_self]

theorem bare_scientific (h : digits.all isBare) (exponent : Int) : Bare (scientific digits exponent) := by
  have parts : (digits.take 1).all isBare ∧ (digits.drop 1).all isBare := by
    rwa [← Bool.and_eq_true_iff,← List.all_append,List.take_append_drop]
  have power : Bare (toString exponent) := bare_int exponent
  simp only [scientific]
  split_ifs <;> simp +decide only [bare_append,bare_ofList,parts,power,and_self]

theorem bare_writeDecimal (s : FloatStyle) (d : Decimal) : Bare (s.writeDecimal d) := by
  simp only [writeDecimal]
  split_ifs
  · exact bare_plain (all_isBare_toDigits (by decide) (by decide) _) _ _
  · exact bare_scientific (all_isBare_toDigits (by decide) (by decide) _) _

theorem bare_write (s : FloatStyle) {f : BinaryFormat} (x : Binary f) : Bare (s.write x) := by
  simp only [write]
  split_ifs <;> simp +decide only [bare_append,bare_writeDecimal,and_self]

end FloatStyle
end ColumnarReport
