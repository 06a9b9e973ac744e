import ColumnarReport.Text.Quoted
import ColumnarReport.Proofs.OneLine

/-! Quoted text is read back, whatever stands behind it: it ends at its own closing quote, and each
character ends where its escape does. It stays on its line. -/
namespace ColumnarReport
namespace Text

open Digits

def IsInline (c : Char) : Prop := c ≠ '\n' ∧ c ≠ '\r'

instance (c : Char) : Decidable (IsInline c) := inferInstanceAs (Decidable (_ ∧ _))

def Inline (cs : List Char) : Prop := ∀ c ∈ cs, IsInline c

section

variable {cs ds : List Char}

@[simp] theorem inline_nil : Inline [] := by simp [Inline]

@[simp] theorem inline_cons (c : Char) : Inline (c :: cs) ↔ IsInline c ∧ Inline cs :=
  List.forall_mem_cons

@[simp] theorem inline_append : Inline (cs++ds) ↔ Inline cs ∧ Inline ds := List.forall_mem_append

theorem inline_of_bare (h : ∀ c ∈ cs, isBare c) : Inline cs := by
  intro c mem
  have bare := h c mem
  constructor
  · rintro rfl
    cases bare
  · rintro rfl
    cases bare

end

/-- Where every escape is read back and none begins with a quote, escaped text ends at the first quote
behind it. -/
theorem escaped_append_inj {e : Char → List Char}
    (inj : ∀ {c d r s}, e c++r = e d++s → c = d ∧ r = s) (inside : ∀ c r s, e c++r ≠ '"' :: s)
    {cs ds r s : List Char} (h : cs.flatMap e ++ '"' :: r = ds.flatMap e ++ '"' :: s) :
    cs = ds ∧ r = s := by
  -- Where one text ends first, its closing quote meets an escaped character of the other.
  induction cs generalizing ds with
  | nil =>
    cases ds with
    | nil => simpa using h
    | cons d ds =>
      simp only [List.flatMap_nil,List.nil_append,List.flatMap_cons,List.append_assoc] at h
      exact (inside d _ _ h.symm).elim
  | cons c cs ih =>
    cases ds with
    | nil =>
      simp only [List.flatMap_nil,List.nil_append,List.flatMap_cons,List.append_assoc] at h
      exact (inside c _ _ h).elim
    | cons d ds =>
      simp only [List.flatMap_cons,List.append_assoc] at h
      obtain ⟨rfl,rest⟩ := inj h
      obtain ⟨rfl,same⟩ := ih rest
      exact ⟨rfl,same⟩

def shortEscapes : List (Char × Char) :=
  [('"','"'),('\\','\\'),('\n','n'),('\r','r'),('\t','t'),('\x00','0')]

/-- A character is written as it is, with one letter or with its number. -/
theorem escape_cases (c : Char) :
    (∃ letter, (c,letter) ∈ shortEscapes ∧ escape c = ['\\',letter]) ∨
    ((∀ letter, (c,letter) ∉ shortEscapes) ∧ escape c = [c]) ∨
    escape c = '\\' :: 'u' :: '\x7b' :: (Nat.toDigits 16 c.toNat++['\x7d']) := by
  unfold escape shortEscapes
  split_ifs <;> simp_all

theorem letter_inj : ∀ a ∈ shortEscapes, ∀ b ∈ shortEscapes, a.2 = b.2 → a.1 = b.1 := by decide

theorem letter_ne_u : ∀ a ∈ shortEscapes, a.2 ≠ 'u' := by decide

theorem number_append_inj {n m : Nat} {r s : List Char}
    (h : Nat.toDigits 16 n ++ '\x7d' :: r = Nat.toDigits 16 m ++ '\x7d' :: s) : n = m ∧ r = s := by
  have bare (n : Nat) : ∀ c ∈ Nat.toDigits 16 n, isBare c :=
    List.all_eq_true.mp (all_isBare_toDigits (by decide) (by decide) n)
  have ends (r : List Char) (c : Char) (first : ('\x7d' :: r).head? = some c) : ¬ isBare c := by
    obtain rfl := Option.some.inj first
    decide
  obtain ⟨digits,rest⟩ := append_inj_of_ends (bare n) (bare m) (ends r) (ends s) h
  exact ⟨Digits.toDigits_inj (by decide) (by decide) digits,(List.cons.inj rest).2⟩

theorem ne_backslash {c : Char} (plain : ∀ letter, (c,letter) ∉ shortEscapes) : c ≠ '\\' := by
  rintro rfl
  exact plain '\\' (by decide)

theorem escape_append_inj {c d : Char} {r s : List Char} (h : escape c++r = escape d++s) :
    c = d ∧ r = s := by
  rcases escape_cases c with ⟨letter,short,text⟩ | ⟨plain,text⟩ | text <;>
    rcases escape_cases d with ⟨letter',short',text'⟩ | ⟨plain',text'⟩ | text' <;>
    simp only [text,text',List.cons_append,List.nil_append,List.append_assoc,List.cons.injEq,
      true_and] at h
  · exact ⟨letter_inj _ short _ short' h.1,h.2⟩
  · exact (ne_backslash plain' h.1.symm).elim
  · exact (letter_ne_u _ short h.1).elim
  · exact (ne_backslash plain h.1).elim
  · exact h
  · exact (ne_backslash plain h.1).elim
  · exact (letter_ne_u _ short' h.1.symm).elim
  · exact (ne_backslash plain' h.1.symm).elim
  · obtain ⟨number,rest⟩ := number_append_inj h
    exact ⟨Char.toNat_inj.mp number,rest⟩

theorem escape_append_ne_quote (c : Char) (r s : List Char) : escape c++r ≠ '"' :: s := by
  intro h
  rcases escape_cases c with ⟨letter,-,text⟩ | ⟨plain,text⟩ | text <;>
    simp only [text,List.cons_append,List.nil_append,List.cons.injEq] at h
  · exact absurd h.1 (by decide)
  · obtain rfl := h.1
    exact plain '"' (by decide)
  · exact absurd h.1 (by decide)

theorem inline_escape (c : Char) : Inline (escape c) := by
  rcases escape_cases c with ⟨letter,short,text⟩ | ⟨plain,text⟩ | text <;> rw [text]
  · have letters : ∀ a ∈ shortEscapes, IsInline a.2 := by decide
    simpa +decide using letters _ short
  · have feed : c ≠ '\n' := by
      rintro rfl
      exact plain 'n' (by decide)
    have carriage : c ≠ '\r' := by
      rintro rfl
      exact plain 'r' (by decide)
    simpa using ⟨feed,carriage⟩
  · have number : Inline (Nat.toDigits 16 c.toNat) := inline_of_bare
      (List.all_eq_true.mp (all_isBare_toDigits (by decide) (by decide) c.toNat))
    simpa +decide using number

theorem toList_quote (s : String) : (quote s).toList = '"' :: (s.toList.flatMap escape++['"']) := by
  rw [quote,String.toList_ofList]
  rfl

/-- Quoted text ends at its own closing quote. -/
theorem quote_append_inj {a b : String} {r s : List Char}
    (h : (quote a).toList++r = (quote b).toList++s) : a = b ∧ r = s := by
  simp only [toList_quote,List.cons_append,List.append_assoc,List.nil_append,List.cons.injEq,
    true_and] at h
  obtain ⟨text,rest⟩ := escaped_append_inj escape_append_inj escape_append_ne_quote h
  exact ⟨String.toList_inj.mp text,rest⟩

theorem inline_quote (s : String) : Inline (quote s).toList := by
  have text : Inline (s.toList.flatMap escape) := by
    intro d mem
    obtain ⟨c,-,mem⟩ := List.mem_flatMap.mp mem
    exact inline_escape c d mem
  simpa +decide [toList_quote] using text

end Text
end ColumnarReport
