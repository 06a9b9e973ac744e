import ColumnarReport.Text.LetterCase
import ColumnarReport.Text.Lines
import ColumnarReport.Proofs.BareText

/-! Texts of one line. A text of such lines, each ended, is read back line by line; numbers are
written on one line, and a case mapping makes no line feed of another character. -/
namespace ColumnarReport
namespace Text

def OneLine (s : String) : Prop := '\n' ∉ s.toList

instance (s : String) : Decidable (OneLine s) := inferInstanceAs (Decidable (¬ '\n' ∈ s.toList))

@[simp] theorem oneLine_append (a b : String) : OneLine (a++b) ↔ OneLine a ∧ OneLine b := by
  simp [OneLine,not_or]

@[simp] theorem oneLine_ofList (cs : List Char) : OneLine (String.ofList cs) ↔ '\n' ∉ cs := by
  simp [OneLine]

theorem Bare.oneLine {s : String} (h : Bare s) : OneLine s := h.notMem rfl

@[simp] theorem oneLine_nat (n : Nat) : OneLine n.repr := (bare_nat n).oneLine

@[simp] theorem oneLine_int (i : Int) : OneLine i.repr := (bare_int i).oneLine

theorem count_unlines {lines : List String} (h : ∀ line ∈ lines, OneLine line) :
    (unlines lines).toList.count '\n' = lines.length := by
  rw [toList_unlines]
  induction lines with
  | nil => rfl
  | cons line lines ih =>
    have hline : line.toList.count '\n' = 0 := List.count_eq_zero.mpr (h line (by simp))
    have hlines := ih fun l hl => h l (List.mem_cons_of_mem line hl)
    simp [List.count_append,hline,hlines]

theorem getLast?_unlines {lines : List String} (h : lines ≠ []) :
    (unlines lines).toList.getLast? = some '\n' := by
  obtain ⟨before,last,rfl⟩ := List.eq_nil_or_concat lines |>.resolve_left h
  simp [toList_unlines]

/-- A line ends at the first line feed. -/
theorem line_inj {a b r s : List Char} (ha : '\n' ∉ a) (hb : '\n' ∉ b)
    (h : a ++ '\n' :: r = b ++ '\n' :: s) : a = b ∧ r = s := by
  have other {cs : List Char} (h : '\n' ∉ cs) : ∀ c ∈ cs, c ≠ '\n' := fun c mem feed => h (feed ▸ mem)
  obtain ⟨line,rest⟩ := append_inj_of_ends (other ha) (other hb) (by simp) (by simp) h
  exact ⟨line,(List.cons.inj rest).2⟩

theorem unlines_inj {xs ys : List String} (hx : ∀ line ∈ xs, OneLine line)
    (hy : ∀ line ∈ ys, OneLine line) (h : unlines xs = unlines ys) : xs = ys := by
  have h' := String.toList_inj.mpr h
  rw [toList_unlines,toList_unlines] at h'
  clear h
  induction xs generalizing ys with
  | nil =>
    cases ys with
    | nil => rfl
    | cons y ys => simp at h'
  | cons x xs ih =>
    cases ys with
    | nil => simp at h'
    | cons y ys =>
      simp only [List.flatMap_cons,List.append_assoc,List.singleton_append] at h'
      obtain ⟨hline,hrest⟩ := line_inj (hx x (by simp)) (hy y (by simp)) h'
      rw [String.toList_inj.mp hline,ih (fun l hl => hx l (List.mem_cons_of_mem x hl))
        (fun l hl => hy l (List.mem_cons_of_mem y hl)) hrest]

/-- A case mapping makes no character below the letters out of another one. -/
theorem eq_of_mem_mapCase {runs : List CaseRun} {expansions : List (Nat × List Nat)}
    (hruns : ∀ r ∈ runs, 0x41 ≤ (r.first : Int)+r.shift)
    (hexp : ∀ e ∈ expansions, ∀ n ∈ e.2, 0x41 ≤ n) {c d : Char} (positive : 0 < d.toNat)
    (low : d.toNat < 0x41) (h : d ∈ mapCase runs expansions c) : d = c := by
  have above {n : Nat} (hn : 0x41 ≤ n) : d ≠ Char.ofNat n := by
    rintro rfl
    rw [Char.toNat_ofNat] at positive low
    split_ifs at positive low <;> omega
  unfold mapCase at h
  split at h
  next e he =>
    obtain ⟨n,hn,rfl⟩ := List.mem_map.mp h
    exact (above (hexp e (List.mem_of_find?_eq_some he) n hn) rfl).elim
  next =>
    split at h
    next r hr =>
      have covered : r.covers c.toNat = true := by simpa using List.find?_some hr
      have first := hruns r (List.mem_of_find?_eq_some hr)
      simp only [CaseRun.covers,Bool.and_eq_true,decide_eq_true_eq] at covered
      exact (above (by omega) (List.mem_singleton.mp h)).elim
    next => exact List.mem_singleton.mp h

theorem eq_of_mem_case {c d : Char} (positive : 0 < d.toNat) (low : d.toNat < 0x41)
    (h : d ∈ upper c ∨ d ∈ lower c) : d = c := by
  rcases h with h | h <;>
    exact eq_of_mem_mapCase (by decide +kernel) (by decide +kernel) positive low h

end Text
end ColumnarReport
