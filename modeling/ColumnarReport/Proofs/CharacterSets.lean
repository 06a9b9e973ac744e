import Mathlib
import ColumnarReport.Text.LetterCase

/-! Sets of characters under case mappings. A mapping neither leads into a set nor out of it if what it
moves lies, before and after, within ranges of the set or apart from all of them. The ranges of a large
set are looked up in a search tree. -/
namespace ColumnarReport
namespace Text

namespace CaseRun

def move (r : CaseRun) (n : Nat) : Nat := (n+r.shift).toNat

/-- What the run moves, as one range where it has no gaps. -/
def sources (r : CaseRun) : CodePoints :=
  if r.step = 1 then [(r.first,r.last)]
  else (List.range' r.first ((r.last-r.first)/r.step+1) r.step).map fun n => (n,n)

variable {r : CaseRun} {n m : Nat}

theorem move_mono (r : CaseRun) (h : n ≤ m) : r.move n ≤ r.move m := by
  rw [move,move]
  omega

theorem covers_iff : r.covers n = true ↔ (r.first ≤ n ∧ n ≤ r.last) ∧ (n-r.first)%r.step = 0 := by
  simp [covers]

theorem exists_source (h : r.covers n) : ∃ s ∈ r.sources, s.1 ≤ n ∧ n ≤ s.2 := by
  obtain ⟨⟨above,below⟩,step⟩ := covers_iff.mp h
  by_cases whole : r.step = 1
  · exact ⟨(r.first,r.last),by simp [sources,whole],above,below⟩
  · refine ⟨(n,n),?_,le_refl n,le_refl n⟩
    have count : (n-r.first)/r.step ≤ (r.last-r.first)/r.step := Nat.div_le_div_right (by omega)
    have place : n = r.first+r.step*((n-r.first)/r.step) := by
      have := Nat.div_add_mod (n-r.first) r.step
      omega
    rw [sources,if_neg whole]
    exact List.mem_map.mpr ⟨n,List.mem_range'.mpr ⟨_,by omega,place⟩,rfl⟩

end CaseRun

/-- Ascending ranges, with those before and behind a middle one as subtrees. -/
inductive RangeTree
  | leaf
  | node (before : RangeTree) (middle : Nat × Nat) (behind : RangeTree)

namespace RangeTree

def ofList : Nat → CodePoints → RangeTree
  | 0,_ => leaf
  | depth+1,S =>
    match S.drop (S.length/2) with
    | [] => leaf
    | s :: rest => node (ofList depth (S.take (S.length/2))) s (ofList depth rest)

/-- Whether one of the ranges holds another range whole. -/
def surrounds (r : Nat × Nat) : RangeTree → Bool
  | leaf => false
  | node before s behind =>
    if r.2 < s.1 then before.surrounds r
    else if s.2 < r.1 then behind.surrounds r
    else decide (s.1 ≤ r.1) && decide (r.2 ≤ s.2)

theorem exists_of_surrounds {depth : Nat} {S : CodePoints} {r : Nat × Nat}
    (h : (ofList depth S).surrounds r) : ∃ s ∈ S, s.1 ≤ r.1 ∧ r.2 ≤ s.2 := by
  induction depth generalizing S with
  | zero => simp [ofList,surrounds] at h
  | succ depth ih =>
    rw [ofList] at h
    split at h
    next => simp [surrounds] at h
    next s rest split =>
      have behind {q : Nat × Nat} (hq : q ∈ s :: rest) : q ∈ S :=
        List.mem_of_mem_drop (split ▸ hq)
      rw [surrounds] at h
      split_ifs at h with left right
      · obtain ⟨q,hq,inside⟩ := ih h
        exact ⟨q,List.mem_of_mem_take hq,inside⟩
      · obtain ⟨q,hq,inside⟩ := ih h
        exact ⟨q,behind (List.mem_cons_of_mem s hq),inside⟩
      · exact ⟨s,behind List.mem_cons_self,by simpa using h⟩

end RangeTree

namespace CodePoints

def tree (S : CodePoints) : RangeTree := .ofList S.length S

def isApart (S : CodePoints) (r : Nat × Nat) : Bool :=
  S.all fun s => decide (s.2 < r.1) || decide (r.2 < s.1)

def isOfCharacters (r : Nat × Nat) : Bool :=
  decide (r.2 < 0xD800) || decide (0xDFFF < r.1) && decide (r.2 < 0x110000)

def keeps (S : CodePoints) (r : CaseRun) : Bool :=
  r.sources.all fun s => S.tree.surrounds s && S.tree.surrounds (r.move s.1,r.move s.2)

def misses (S : CodePoints) (r : CaseRun) : Bool :=
  S.isApart (r.first,r.last) && S.isApart (r.move r.first,r.move r.last) &&
    isOfCharacters (r.move r.first,r.move r.last)

/-- Whether a case mapping is seen to lead neither into the set nor out of it. -/
def respectsCase (S : CodePoints) (runs : List CaseRun) (expansions : List (Nat × List Nat)) : Bool :=
  S.all isOfCharacters && runs.all (fun r => S.keeps r || S.misses r) &&
    expansions.all fun e => (e.1 :: e.2).all fun n => S.tree.surrounds (n,n)

variable {S : CodePoints} {c d : Char} {n : Nat} {r : Nat × Nat}

theorem toNat_ofNat (h : isOfCharacters r) (above : r.1 ≤ n) (below : n ≤ r.2) :
    (Char.ofNat n).toNat = n := by
  simp only [isOfCharacters,Bool.or_eq_true,Bool.and_eq_true,decide_eq_true_eq] at h
  have valid : n.isValidChar := by
    rw [Nat.isValidChar]
    omega
  rw [Char.toNat_ofNat,if_pos valid]

theorem has_of_surrounds (h : S.tree.surrounds r) (above : r.1 ≤ c.toNat) (below : c.toNat ≤ r.2) :
    S.has c := by
  obtain ⟨s,hs,first,last⟩ := RangeTree.exists_of_surrounds h
  exact (S.has_iff c).mpr ⟨s,hs,first.trans above,below.trans last⟩

theorem has_ofNat (characters : S.all isOfCharacters) (h : S.tree.surrounds r) (above : r.1 ≤ n)
    (below : n ≤ r.2) : S.has (Char.ofNat n) := by
  obtain ⟨s,hs,first,last⟩ := RangeTree.exists_of_surrounds h
  have same := toNat_ofNat (List.all_eq_true.mp characters s hs) (first.trans above) (below.trans last)
  apply has_of_surrounds h
  · rwa [same]
  · rwa [same]

theorem not_has_of_isApart (apart : S.isApart r) (above : r.1 ≤ c.toNat) (below : c.toNat ≤ r.2) :
    ¬ S.has c := by
  intro h
  obtain ⟨s,hs,first,last⟩ := (S.has_iff c).mp h
  have := List.all_eq_true.mp apart s hs
  simp only [Bool.or_eq_true,decide_eq_true_eq] at this
  omega

theorem has_of_keeps (characters : S.all isOfCharacters) {r : CaseRun} (h : S.keeps r)
    (covered : r.covers c.toNat) : S.has c ∧ S.has (Char.ofNat (r.move c.toNat)) := by
  obtain ⟨s,hs,above,below⟩ := CaseRun.exists_source covered
  have both := List.all_eq_true.mp h s hs
  obtain ⟨before,after⟩ := Bool.and_eq_true_iff.mp both
  exact ⟨has_of_surrounds before above below,
    has_ofNat characters after (r.move_mono above) (r.move_mono below)⟩

theorem not_has_of_misses {r : CaseRun} (h : S.misses r) (covered : r.covers c.toNat) :
    ¬ S.has c ∧ ¬ S.has (Char.ofNat (r.move c.toNat)) := by
  simp only [misses,Bool.and_eq_true] at h
  obtain ⟨⟨before,after⟩,characters⟩ := h
  obtain ⟨⟨above,below⟩,-⟩ := CaseRun.covers_iff.mp covered
  have same := toNat_ofNat characters (r.move_mono above) (r.move_mono below)
  refine ⟨not_has_of_isApart before above below,not_has_of_isApart after ?_ ?_⟩
  · rw [same]
    exact r.move_mono above
  · rw [same]
    exact r.move_mono below

theorem has_iff_of_mem_mapCase {runs : List CaseRun} {expansions : List (Nat × List Nat)}
    (respects : S.respectsCase runs expansions) (hd : d ∈ mapCase runs expansions c) :
    S.has d = true ↔ S.has c = true := by
  simp only [respectsCase,Bool.and_eq_true,List.all_eq_true,Bool.or_eq_true] at respects
  obtain ⟨⟨characters,moved⟩,expanded⟩ := respects
  have characters : S.all isOfCharacters := List.all_eq_true.mpr characters
  unfold mapCase at hd
  split at hd
  next e he =>
    obtain ⟨n,hn,rfl⟩ := List.mem_map.mp hd
    have inside := expanded e (List.mem_of_find?_eq_some he)
    have source : e.1 = c.toNat := by simpa using List.find?_some he
    have before : S.has c :=
      has_of_surrounds (inside e.1 List.mem_cons_self) source.le source.ge
    have after : S.has (Char.ofNat n) :=
      has_ofNat characters (inside n (List.mem_cons_of_mem _ hn)) (le_refl n) (le_refl n)
    exact iff_of_true after before
  next =>
    split at hd
    next r hr =>
      rw [List.mem_singleton.mp hd]
      have covered : r.covers c.toNat := by simpa using List.find?_some hr
      rcases moved r (List.mem_of_find?_eq_some hr) with keeps | misses
      · obtain ⟨before,after⟩ := has_of_keeps characters keeps covered
        exact iff_of_true after before
      · obtain ⟨before,after⟩ := not_has_of_misses misses covered
        exact iff_of_false after before
    next => rw [List.mem_singleton.mp hd]

end CodePoints

theorem mapCase_ne_nil {runs : List CaseRun} {expansions : List (Nat × List Nat)}
    (h : ∀ e ∈ expansions, e.2 ≠ []) (c : Char) : mapCase runs expansions c ≠ [] := by
  unfold mapCase
  split
  next e he => simpa using h e (List.mem_of_find?_eq_some he)
  next =>
    split
    next => simp
    next => simp

theorem upper_ne_nil (c : Char) : upper c ≠ [] := mapCase_ne_nil (by decide) c

theorem lower_ne_nil (c : Char) : lower c ≠ [] := mapCase_ne_nil (by decide) c

end Text
end ColumnarReport
