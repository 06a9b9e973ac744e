import ColumnarReport.Proofs.FloatDigits
import ColumnarReport.Proofs.QuotedText
import ColumnarReport.Proofs.UniqueCount

/-! The text of a list of cells is one line and tells the list. Quoted text ends at its own quote and
the text of another cell at the first comma or bracket, which it does not hold; the text of such a cell
tells what sort of cell it is, and its value. -/
namespace ColumnarReport
namespace Cell

open DecimalText Text

/-- Equal cells, any two not-a-numbers, and two cells of one integer. -/
def SameValue (a b : Cell) : Prop := a.Alike b ∨ ∃ i, a.integer? = some i ∧ b.integer? = some i

variable {a b c : Cell}

/-! ### Cells without quotes -/

inductive Token
  | null
  | bool
  | integer
  | float
  deriving DecidableEq

def token? : Cell → Option Token
  | null => some .null
  | bool _ => some .bool
  | int _ => some .integer
  | uint _ => some .integer
  | float _ => some .float
  | text _ => none
  | other _ => none

def tokenOfText (s : String) : Token :=
  if s = "null" then .null
  else if s = "true" ∨ s = "false" then .bool
  else if (DecimalText.integer? s.toList).any (toString · = s) then .integer
  else .float

/-- The texts of absent cells and truth values, and the empty one. -/
def notNumbers : List String := ["null","true","false",""]

theorem floatText_cases (x : Double) : (∃ v, DecimalText.number? (floatText x).toList = some v ∧
    ∀ i : Int, floatText x ≠ toString i) ∨ floatText x ∈ ["NaN","inf","-inf"] := by
  cases finite : x.isFinite with
  | true =>
    have shown := Binary.shownBy_write (s := floatStyle) rfl finite
    obtain ⟨v,-,read,-⟩ := shown.number
    exact .inl ⟨_,read,fun i same => shown.notInteger i (congrArg _ same)⟩
  | false =>
    right
    unfold floatText FloatStyle.write
    cases number : x.isNaN with
    | true => simp
    | false =>
      have infinite : x.isInfinite := by
        simp only [Binary.isFinite,Binary.isNaN,Binary.isInfinite,decide_eq_false_iff_not,
          decide_eq_true_eq] at *
        omega
      cases x.negative <;> simp [infinite]

theorem floatText_ne_integer (x : Double) (i : Int) : floatText x ≠ toString i := by
  rcases floatText_cases x with ⟨-,-,other⟩ | word
  · exact other i
  · intro same
    have words : ∀ s ∈ ["NaN","inf","-inf"], DecimalText.integer? s.toList = none := by
      simp [DecimalText.integer?,digits?]
    have read := words _ word
    rw [same,integer?_toString] at read
    cases read

theorem floatText_notMem (x : Double) : floatText x ∉ notNumbers := by
  intro mem
  rcases floatText_cases x with ⟨v,read,-⟩ | word
  · have words : ∀ s ∈ notNumbers, DecimalText.number? s.toList = none := by
      simp [notNumbers,DecimalText.number?,unsigned?,cut,mantissa?,digits?]
    rw [words _ mem] at read
    cases read
  · have apart : ∀ s ∈ ["NaN","inf","-inf"], s ∉ notNumbers := by decide
    exact apart _ word mem

theorem toString_notMem (i : Int) : toString i ∉ notNumbers := by
  intro mem
  have words : ∀ s ∈ notNumbers, DecimalText.integer? s.toList = none := by
    simp [notNumbers,DecimalText.integer?,digits?]
  have read := integer?_toString i
  rw [words _ mem] at read
  cases read

theorem tokenOfText_of_notMem {s : String} (h : s ∉ notNumbers) : tokenOfText s =
    if (DecimalText.integer? s.toList).any (toString · = s) then .integer else .float := by
  simp only [notNumbers,List.mem_cons,not_or] at h
  rw [tokenOfText,if_neg h.1,if_neg (not_or.mpr ⟨h.2.1,h.2.2.1⟩)]

theorem shown_integer {i : Int} (h : c.integer? = some i) : c.shown = toString i := by
  cases c with
  | int v => exact congrArg toString (Option.some.inj h)
  | uint v =>
    obtain rfl := Option.some.inj h
    rfl
  | null | bool | float | text | other => cases h

theorem exists_integer (h : c.token? = some .integer) : ∃ i, c.integer? = some i := by
  cases c with
  | int v => exact ⟨_,rfl⟩
  | uint v => exact ⟨_,rfl⟩
  | null | bool | float | text | other => cases h

theorem tokenOfText_shown {k : Token} (h : c.token? = some k) : tokenOfText c.shown = k := by
  cases k with
  | null =>
    cases c <;> cases h
    rfl
  | bool =>
    cases c <;> cases h
    next v => cases v <;> rfl
  | integer =>
    obtain ⟨i,hi⟩ := exists_integer h
    rw [shown_integer hi,tokenOfText_of_notMem (toString_notMem i),integer?_toString]
    simp
  | float =>
    cases c <;> cases h
    next x =>
      rw [shown,tokenOfText_of_notMem (floatText_notMem x),if_neg]
      intro integer
      obtain ⟨i,-,same⟩ := (Option.any_eq_true _ _).mp integer
      exact floatText_ne_integer x i (of_decide_eq_true same).symm

theorem shown_ne_empty {k : Token} (h : c.token? = some k) : c.shown ≠ "" := by
  cases k with
  | null =>
    cases c <;> cases h
    decide
  | bool =>
    cases c <;> cases h
    next v => cases v <;> decide
  | integer =>
    obtain ⟨i,hi⟩ := exists_integer h
    rw [shown_integer hi]
    exact fun none => toString_notMem i (by simp [none,notNumbers])
  | float =>
    cases c <;> cases h
    next x => exact fun none => floatText_notMem x (by simp [show floatText x = "" from none,notNumbers])

theorem bare_shown {k : Token} (h : c.token? = some k) : Bare c.shown := by
  cases c with
  | null => decide
  | bool v => cases v <;> decide
  | int v => exact bare_int _
  | uint v => exact bare_nat _
  | float x => exact FloatStyle.bare_write _ x
  | text | other => cases h

theorem sameValue_of_shown_eq {k l : Token} (ha : a.token? = some k) (hb : b.token? = some l)
    (h : a.shown = b.shown) : SameValue a b := by
  obtain rfl : k = l := by rw [← tokenOfText_shown ha,h,tokenOfText_shown hb]
  cases k with
  | integer =>
    obtain ⟨i,hi⟩ := exists_integer ha
    obtain ⟨j,hj⟩ := exists_integer hb
    rw [shown_integer hi,shown_integer hj] at h
    exact .inr ⟨i,hi,toString_inj h ▸ hj⟩
  | null | bool | float =>
    cases a <;> cases ha
    cases b <;> cases hb
    refine .inl ((shown_eq_iff ?_).mp h)
    rfl

/-! ### Items -/

theorem listed_of_token {k : Token} (h : c.token? = some k) : c.listed = c.shown := by
  cases c <;> first | rfl | cases h

theorem text_or_token (h : c.variant ≠ .other) : (∃ s, c = .text s) ∨ ∃ k, c.token? = some k := by
  cases c with
  | text s => exact .inl ⟨s,rfl⟩
  | other => exact (h rfl).elim
  | null | bool | int | uint | float => exact .inr ⟨_,rfl⟩

/-- What stands behind an item begins with a comma or the closing bracket. -/
def Ends (r : List Char) : Prop := r.head? = some ',' ∨ r.head? = some ']'

theorem Ends.not_isBare {r : List Char} (h : Ends r) (d : Char) (first : r.head? = some d) :
    ¬ isBare d := by
  rcases h with comma | bracket
  · obtain rfl := Option.some.inj (comma.symm.trans first)
    decide
  · obtain rfl := Option.some.inj (bracket.symm.trans first)
    decide

/-- No item without quotes looks like quoted text. -/
theorem quote_append_ne {k : Token} (h : c.token? = some k) {s : String} {r r' : List Char} (ends : Ends r') :
    (quote s).toList++r ≠ c.shown.toList++r' := by
  intro same
  have bare := bare_iff.mp (bare_shown h)
  rw [toList_quote,List.cons_append] at same
  cases text : c.shown.toList with
  | nil =>
    rw [text,List.nil_append] at same
    rcases ends with first | first <;> simp [← same] at first
  | cons d rest =>
    rw [text,List.cons_append] at same
    have quote := bare d (text ▸ List.mem_cons_self)
    rw [← (List.cons.inj same).1] at quote
    cases quote

/-- The text of an item tells its value and where it ends. -/
theorem listed_append_inj (ha : a.variant ≠ .other) (hb : b.variant ≠ .other) {r s : List Char}
    (hr : Ends r) (hs : Ends s) (h : a.listed.toList++r = b.listed.toList++s) :
    SameValue a b ∧ r = s := by
  rcases text_or_token ha with ⟨v,rfl⟩ | ⟨k,token⟩ <;> rcases text_or_token hb with ⟨w,rfl⟩ | ⟨l,token'⟩
  · obtain ⟨rfl,rest⟩ := quote_append_inj h
    exact ⟨.inl (.refl _),rest⟩
  · rw [listed_of_token token'] at h
    exact (quote_append_ne token' hs h).elim
  · rw [listed_of_token token] at h
    exact (quote_append_ne token hr h.symm).elim
  · rw [listed_of_token token,listed_of_token token'] at h
    obtain ⟨text,rest⟩ := append_inj_of_ends (bare_iff.mp (bare_shown token))
      (bare_iff.mp (bare_shown token')) hr.not_isBare hs.not_isBare h
    exact ⟨sameValue_of_shown_eq token token' (String.toList_inj.mp text),rest⟩

theorem listed_ne_nil (h : c.variant ≠ .other) : c.listed.toList ≠ [] := by
  rcases text_or_token h with ⟨s,rfl⟩ | ⟨k,token⟩
  · rw [listed,toList_quote]
    exact List.cons_ne_nil _ _
  · rw [listed_of_token token]
    exact mt String.toList_eq_nil_iff.mp (shown_ne_empty token)

theorem SameValue.listed_eq (h : SameValue a b) : a.listed = b.listed := by
  rcases h with (_ | ⟨hx,hy⟩) | ⟨i,hi,hj⟩
  · rfl
  · exact floatStyle.write_eq_iff.mpr (.inr ⟨hx,hy⟩)
  · have integer {c : Cell} (h : c.integer? = some i) : c.listed = toString i := by
      rw [← shown_integer h]
      cases c <;> first | rfl | cases h
    rw [integer hi,integer hj]

theorem inline_listed (h : c.variant ≠ .other) : Inline c.listed.toList := by
  rcases text_or_token h with ⟨s,rfl⟩ | ⟨k,token⟩
  · exact inline_quote s
  · rw [listed_of_token token]
    exact inline_of_bare (bare_iff.mp (bare_shown token))

/-! ### Lists -/

def behind : List Cell → List Char
  | [] => [']']
  | c :: cells => ',' :: ' ' :: (c.listed.toList++behind cells)

theorem toList_listText_nil : (listText []).toList = ['[',']'] := rfl

theorem toList_listText_cons (c : Cell) (cells : List Cell) :
    (listText (c :: cells)).toList = '[' :: (c.listed.toList++behind cells) := by
  have joined : (", ".intercalate ((c :: cells).map listed)).toList++[']'] =
      c.listed.toList++behind cells := by
    induction cells generalizing c with
    | nil => simp [behind]
    | cons d cells ih =>
      rw [List.map_cons,List.map_cons,String.intercalate_cons_cons]
      simpa [behind] using ih d
  simp [listText,← joined]

theorem ends_behind (cells : List Cell) : Ends (behind cells) := by
  cases cells with
  | nil => exact .inr rfl
  | cons => exact .inl rfl

variable {cells cells' : List Cell}

theorem behind_inj (h : ∀ c ∈ cells, c.variant ≠ .other) (h' : ∀ c ∈ cells', c.variant ≠ .other)
    (same : behind cells = behind cells') : List.Forall₂ SameValue cells cells' := by
  induction cells generalizing cells' with
  | nil =>
    cases cells' with
    | nil => exact .nil
    | cons d ds => simp [behind] at same
  | cons c cs ih =>
    cases cells' with
    | nil => simp [behind] at same
    | cons d ds =>
      simp only [behind,List.cons.injEq,true_and] at same
      obtain ⟨value,rest⟩ := listed_append_inj (h c List.mem_cons_self) (h' d List.mem_cons_self)
        (ends_behind cs) (ends_behind ds) same
      exact .cons value (ih (fun c mem => h c (.tail _ mem)) (fun c mem => h' c (.tail _ mem)) rest)

theorem listText_nil_ne (h : c.variant ≠ .other) (cells : List Cell) :
    (listText []).toList ≠ (listText (c :: cells)).toList := by
  intro same
  rw [toList_listText_nil,toList_listText_cons] at same
  cases text : c.listed.toList with
  | nil => exact listed_ne_nil h text
  | cons d rest =>
    rw [text] at same
    cases cells <;> simp [behind] at same

theorem listText_inj (h : ∀ c ∈ cells, c.variant ≠ .other) (h' : ∀ c ∈ cells', c.variant ≠ .other)
    (same : listText cells = listText cells') : List.Forall₂ SameValue cells cells' := by
  replace same := congrArg String.toList same
  cases cells with
  | nil =>
    cases cells' with
    | nil => exact .nil
    | cons d ds => exact (listText_nil_ne (h' d List.mem_cons_self) ds same).elim
  | cons c cs =>
    cases cells' with
    | nil => exact (listText_nil_ne (h c List.mem_cons_self) cs same.symm).elim
    | cons d ds =>
      rw [toList_listText_cons,toList_listText_cons] at same
      exact behind_inj h h' (congrArg (',' :: ' ' :: ·) (List.cons.inj same).2)

theorem listText_congr (h : List.Forall₂ SameValue cells cells') : listText cells = listText cells' := by
  have items : cells.map listed = cells'.map listed := by
    induction h with
    | nil => rfl
    | cons same _ ih => rw [List.map_cons,List.map_cons,same.listed_eq,ih]
  rw [listText,listText,items]

theorem inline_behind (h : ∀ c ∈ cells, c.variant ≠ .other) : Inline (behind cells) := by
  induction cells with
  | nil => simp +decide [behind]
  | cons c cs ih =>
    have item := inline_listed (h c List.mem_cons_self)
    simpa +decide [behind,item] using ih fun c mem => h c (.tail _ mem)

theorem inline_listText (h : ∀ c ∈ cells, c.variant ≠ .other) : Inline (listText cells).toList := by
  cases cells with
  | nil => simp +decide [toList_listText_nil]
  | cons c cs =>
    have item := inline_listed (h c List.mem_cons_self)
    have rest := inline_behind fun c mem => h c (.tail _ mem)
    simpa +decide [toList_listText_cons,item] using rest

theorem SameValue.eq_of_text {s : String} (h : SameValue (.text s) b) : b = .text s := by
  rcases h with (_ | _) | ⟨i,hi,-⟩
  · rfl
  · cases hi

theorem getElem?_text (h : List.Forall₂ SameValue cells cells') {i : Nat} {s : String}
    (text : cells[i]? = some (.text s)) : cells'[i]? = some (.text s) := by
  induction h generalizing i with
  | nil => cases text
  | cons same _ ih =>
    cases i with
    | zero =>
      obtain rfl := Option.some.inj text
      exact congrArg some same.eq_of_text
    | succ i => exact ih text

/-- The text of a list is one line, and equal texts are those of lists of the same values. A text cell
meets the same text cell at its position. -/
theorem listText_readable (h : ∀ c ∈ cells, c.variant ≠ .other) :
    ('\n' ∉ (listText cells).toList ∧ '\r' ∉ (listText cells).toList) ∧
      ∀ cells' : List Cell, (∀ c ∈ cells', c.variant ≠ .other) →
        (listText cells = listText cells' ↔ List.Forall₂ SameValue cells cells') ∧
        (listText cells = listText cells' →
          ∀ (i : Nat) (s : String), cells[i]? = some (.text s) → cells'[i]? = some (.text s)) := by
  have inline := inline_listText h
  refine ⟨⟨fun feed => (inline _ feed).1 rfl,fun carriage => (inline _ carriage).2 rfl⟩,fun cells' h' =>
    ⟨⟨listText_inj h h',listText_congr⟩,fun same i s => getElem?_text (listText_inj h h' same)⟩⟩

/-- Text that looks like other cells, or like several. The integer, and the bits of what is not a number,
are shown alike. -/
theorem listText_readable_of_misleading_text :
    let nan : Double := ⟨true,⟨2^63-1,by decide⟩⟩
    let cells : List Cell := [.text "1, \"2\"]\n",.int 1,.float .nan,.text "null",.null]
    let cells' : List Cell := [.text "1, \"2\"]\n",.uint 1,.float nan,.text "null",.null]
    let other : List Cell := [.text "1",.text "2\"]\n",.uint 1,.float nan,.null,.text "null"]
    (∀ c ∈ cells, c.variant ≠ .other) ∧ (∀ c ∈ cells', c.variant ≠ .other) ∧
      (∀ c ∈ other, c.variant ≠ .other) ∧ '\n' ∉ (listText cells).toList ∧
      listText cells = listText cells' ∧ listText cells ≠ listText other := by
  intro nan cells cells' other
  have plain : ∀ c ∈ cells, c.variant ≠ .other := by decide
  have plain' : ∀ c ∈ cells', c.variant ≠ .other := by decide
  have apart : ∀ c ∈ other, c.variant ≠ .other := by decide
  have one : SameValue (.int 1) (.uint 1) := .inr ⟨1,rfl,rfl⟩
  have nans : SameValue (.float .nan) (.float nan) := .inl (.nan isNaN_nan (by decide))
  have same : List.Forall₂ SameValue cells cells' :=
    .cons (.inl (.refl _)) (.cons one (.cons nans (.cons (.inl (.refl _)) (.cons (.inl (.refl _)) .nil))))
  obtain ⟨⟨line,-⟩,reads⟩ := listText_readable plain
  refine ⟨plain,plain',apart,line,((reads cells' plain').1).mpr same,fun equal => ?_⟩
  have lengths := ((reads other apart).1.mp equal).length_eq
  exact absurd lengths (by decide)

end Cell
end ColumnarReport
