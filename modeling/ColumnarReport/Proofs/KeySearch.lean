import Mathlib
import ColumnarReport.Template.TargetType

/-! Keys in lower-cased text. A key holds small letters and digits only, so any other character ends it:
in a text of two parts with such a character at the end of the first or at the start of the second, every
place of a key is a place in one of them. Lower-casing looks beyond a character for nothing but the form
of a sigma, which no key has, so the places in a part stay the same within a longer text. -/
namespace ColumnarReport

namespace Text

/-- The forms of the small sigma as one. -/
def plainSigma (c : Char) : Char := if c = 'ς' then 'σ' else c

def lowered (s : String) : List Char := s.toList.flatMap fun c => (lower c).map plainSigma

@[simp] theorem lowered_append (a b : String) : lowered (a++b) = lowered a++lowered b := by
  simp [lowered]

theorem map_plainSigma_lowercaseAfter (before cs : List Char) :
    (lowercaseAfter before cs).map plainSigma = cs.flatMap fun c => (lower c).map plainSigma := by
  induction cs generalizing before with
  | nil => rfl
  | cons c cs ih =>
    have one : (if c = 'Σ' then if meetsCased before && !meetsCased cs then ['ς'] else ['σ']
        else lower c).map plainSigma = (lower c).map plainSigma := by
      split_ifs with sigma ending
      · rw [sigma]
        decide +kernel
      · rw [sigma]
        decide +kernel
      · rfl
    rw [lowercaseAfter,List.map_append,one,ih,List.flatMap_cons]

theorem map_plainSigma_lowercase (s : String) :
    (lowercase s).toList.map plainSigma = lowered s := by
  rw [lowercase,String.toList_ofList]
  exact map_plainSigma_lowercaseAfter [] s.toList

theorem length_lowercase (s : String) : (lowercase s).toList.length = (lowered s).length := by
  rw [← map_plainSigma_lowercase,List.length_map]

end Text

namespace Template

open Text

def isKeyChar (c : Char) : Bool := c.isLower || c.isDigit

structure IsKey (key : List Char) : Prop where
  ne_nil : key ≠ []
  chars : ∀ c ∈ key, isKeyChar c

theorem isKey_of_mem {row : String × String} (h : row ∈ targetTypes) : IsKey row.1.toList := by
  have some : ∀ row ∈ targetTypes, row.1.toList ≠ [] := by decide
  have chars : ∀ row ∈ targetTypes, row.1.toList.all isKeyChar := by decide
  exact ⟨some row h,List.all_eq_true.mp (chars row h)⟩

/-- A key stands at a place of a text. -/
def StandsAt (key text : List Char) (i : Nat) : Prop := key <+: text.drop i

instance (key text : List Char) (i : Nat) : Decidable (StandsAt key text i) :=
  inferInstanceAs (Decidable (key <+: text.drop i))

variable {key a b : List Char} {i j : Nat}

theorem occurs_iff : occurs key a ↔ ∃ i, StandsAt key a i := by
  induction a with
  | nil => simp [occurs,StandsAt]
  | cons c a ih =>
    rw [occurs,Bool.or_eq_true,List.isPrefixOf_iff_prefix,ih]
    constructor
    · rintro (first | ⟨i,later⟩)
      · exact ⟨0,first⟩
      · exact ⟨i+1,later⟩
    · rintro ⟨i,h⟩
      cases i with
      | zero => exact .inl h
      | succ i => exact .inr ⟨i,h⟩

theorem prefix_map_plainSigma (h : ∀ c ∈ key, isKeyChar c) :
    key <+: a.map plainSigma ↔ key <+: a := by
  induction key generalizing a with
  | nil => simp
  | cons k key ih =>
    cases a with
    | nil => simp
    | cons c a =>
      have same : k = plainSigma c ↔ k = c := by
        unfold plainSigma
        split_ifs with final
        · have small : isKeyChar k := h k List.mem_cons_self
          constructor <;> rintro rfl
          · exact absurd small (by decide)
          · exact absurd (final ▸ small) (by decide)
        · rfl
      rw [List.map_cons,List.cons_prefix_cons,List.cons_prefix_cons,same,
        ih fun d mem => h d (.tail _ mem)]

theorem standsAt_lowered {s : String} (h : IsKey key) :
    StandsAt key (lowered s) i ↔ StandsAt key (lowercase s).toList i := by
  rw [StandsAt,← map_plainSigma_lowercase,← List.map_drop,prefix_map_plainSigma h.chars,StandsAt]

theorem standsAt_append_left (h : StandsAt key a i) (b : List Char) : StandsAt key (a++b) i := by
  rw [StandsAt,List.drop_append]
  exact h.trans (List.prefix_append ..)

theorem standsAt_append_right (a : List Char) (h : StandsAt key b j) :
    StandsAt key (a++b) (a.length+j) := by
  rwa [StandsAt,List.drop_append,List.drop_of_length_le (by omega),Nat.add_sub_cancel_left,
    List.nil_append]

/-- Between two texts stands a character that no key has. -/
def Parted (a b : List Char) : Prop :=
  (∃ c, a.getLast? = some c ∧ ¬ isKeyChar c) ∨ ∀ c, b.head? = some c → ¬ isKeyChar c

/-- No key stands across such a character. -/
theorem standsAt_append (isKey : IsKey key) (parted : Parted a b) (h : StandsAt key (a++b) i) :
    StandsAt key a i ∨ ∃ j, i = a.length+j ∧ StandsAt key b j := by
  rcases Nat.lt_or_ge i a.length with inside | beyond
  · left
    rw [StandsAt,List.drop_append_of_le_length inside.le] at h
    rcases List.prefix_or_prefix_of_prefix h (List.prefix_append ..) with within | ⟨rest,rfl⟩
    · exact within
    · -- The key holds the end of the first text, so nothing of it is left for the second.
      rcases parted with ⟨c,last,other⟩ | other
      · have held : c ∈ a.drop i := List.mem_of_getLast? (by
          rwa [List.getLast?_drop,if_neg (not_le.mpr inside)])
        exact absurd (isKey.chars c (List.mem_append_left _ held)) other
      · obtain rfl : rest = [] := by
          by_contra some
          obtain ⟨c,rest,rfl⟩ := List.exists_cons_of_ne_nil some
          obtain ⟨behind,rfl⟩ := (List.prefix_append_right_inj _).mp h
          exact other c rfl (isKey.chars c (by simp))
        rw [StandsAt,List.append_nil]
  · obtain ⟨j,rfl⟩ := Nat.exists_eq_add_of_le beyond
    refine .inr ⟨j,rfl,?_⟩
    rwa [StandsAt,List.drop_append,List.drop_of_length_le beyond,Nat.add_sub_cancel_left,
      List.nil_append] at h

end Template
end ColumnarReport
