import Mathlib
import ColumnarReport.Proofs.Sections
import ColumnarReport.Proofs.SlotCells

/-! Which rows the preview shows. The ranges of a window lie in the table, one behind the other, and hold
all rows where the table is within the limit, and else as many at each end as half the limit. An
inspection asks the renderer for these ranges and for nothing else. A renderer of a batch holds a range to
the rows that it has, so it never reads beyond them, and that changes none of these ranges. -/
namespace ColumnarReport

/-! ### Machine words -/

def wordSum? (greatest a b : Nat) : Option Nat := if a+b ≤ greatest then some (a+b) else none

def wordDifference? (a b : Nat) : Option Nat := if b ≤ a then some (a-b) else none

theorem wordSum?_of_le {greatest a b : Nat} (h : a+b ≤ greatest) :
    wordSum? greatest a b = some (a+b) := if_pos h

theorem wordDifference?_of_le {a b : Nat} (h : b ≤ a) : wordDifference? a b = some (a-b) := if_pos h

namespace PreviewWindow

/-- The rows that a positive limit shows, where the arithmetic of words has a result. -/
def ofRows? (totalRows limit : Nat) : Option PreviewWindow :=
  if totalRows ≤ limit then some (.all totalRows)
  else (wordDifference? totalRows (limit/2)).map fun offset => .split (limit/2) offset (limit/2)

def shownRows? (greatest : Nat) : PreviewWindow → Option Nat
  | all rows => some rows
  | split head _ tail => wordSum? greatest head tail

/-- The rows of the ranges, in the order in which they are drawn. -/
def rows (w : PreviewWindow) : List Nat := w.ranges.flatMap fun r => List.range' r.1 r.2

variable {totalRows limit : Nat}

theorem ofRows_of_le (h : totalRows ≤ limit) : ofRows totalRows limit = .all totalRows := if_pos h

theorem ofRows_of_lt (h : limit < totalRows) :
    ofRows totalRows limit = .split (limit/2) (totalRows-limit/2) (limit/2) := if_neg h.not_ge

theorem ofRows?_eq (totalRows limit : Nat) :
    ofRows? totalRows limit = some (ofRows totalRows limit) := by
  by_cases fits : totalRows ≤ limit
  · rw [ofRows?,if_pos fits,ofRows_of_le fits]
  · have half : limit/2 ≤ totalRows := by omega
    rw [ofRows?,if_neg fits,wordDifference?_of_le half,ofRows_of_lt (Nat.lt_of_not_le fits)]
    rfl

theorem shownRows?_ofRows {greatest : Nat} (h : limit ≤ greatest) :
    (ofRows totalRows limit).shownRows? greatest = some (ofRows totalRows limit).shownRows := by
  by_cases fits : totalRows ≤ limit
  · rw [ofRows_of_le fits]
    rfl
  · rw [ofRows_of_lt (Nat.lt_of_not_le fits),shownRows?,wordSum?_of_le (by omega)]
    rfl

theorem shownRows_eq_length (w : PreviewWindow) : w.shownRows = w.rows.length := by
  cases w <;> simp [shownRows,rows,ranges]

theorem rows_ofRows_of_le (h : totalRows ≤ limit) :
    (ofRows totalRows limit).rows = List.range totalRows := by
  rw [ofRows_of_le h,List.range_eq_range']
  simp [rows,ranges]

theorem rows_ofRows_of_lt (h : limit < totalRows) :
    (ofRows totalRows limit).rows =
      (List.range totalRows).take (limit/2)++(List.range totalRows).drop (totalRows-limit/2) := by
  have half : limit/2 ≤ totalRows := by omega
  have head : (List.range totalRows).take (limit/2) = List.range' 0 (limit/2) := by
    rw [List.take_range,min_eq_left half,List.range_eq_range']
  have tail : (List.range totalRows).drop (totalRows-limit/2) =
      List.range' (totalRows-limit/2) (limit/2) := by
    rw [List.range_eq_range',List.drop_range',Nat.sub_sub_self half]
    simp
  rw [ofRows_of_lt h,head,tail]
  simp [rows,ranges]

/-- What the rows of a window are for a table and a limit. -/
structure Shows (w : PreviewWindow) (totalRows limit : Nat) : Prop where
  within : ∀ r ∈ w.ranges, r.1+r.2 ≤ totalRows
  apart : w.ranges.Pairwise fun r q => r.1+r.2 ≤ q.1
  ascending : w.rows.Pairwise (· < ·)
  whole : totalRows ≤ limit → w.rows = List.range totalRows
  ends : limit < totalRows → w.rows =
    (List.range totalRows).take (limit/2)++(List.range totalRows).drop (totalRows-limit/2)
  every : (∀ i < totalRows, i ∈ w.rows) ↔ totalRows ≤ limit
  count : w.shownRows = w.rows.length
  limited : w.shownRows ≤ limit

/-- Ranges that end where the next one begins, or before, hold each row once. -/
theorem ascending_of_apart {ranges : List (Nat × Nat)}
    (h : ranges.Pairwise fun r q => r.1+r.2 ≤ q.1) :
    (ranges.flatMap fun r => List.range' r.1 r.2).Pairwise (· < ·) := by
  induction ranges with
  | nil => exact List.Pairwise.nil
  | cons r ranges ih =>
    obtain ⟨first,others⟩ := List.pairwise_cons.mp h
    rw [List.flatMap_cons,List.pairwise_append]
    refine ⟨List.pairwise_lt_range',ih others,?_⟩
    intro i hi j hj
    obtain ⟨q,hq,hj⟩ := List.mem_flatMap.mp hj
    have := first q hq
    have := List.mem_range'_1.mp hi
    have := List.mem_range'_1.mp hj
    omega

theorem shows_ofRows (totalRows limit : Nat) : (ofRows totalRows limit).Shows totalRows limit := by
  have ranges : (ofRows totalRows limit).ranges.Pairwise fun r q => r.1+r.2 ≤ q.1 := by
    by_cases fits : totalRows ≤ limit
    · rw [ofRows_of_le fits]
      exact List.pairwise_singleton _ _
    · rw [ofRows_of_lt (Nat.lt_of_not_le fits)]
      simp only [PreviewWindow.ranges,List.pairwise_pair]
      omega
  have limited : (ofRows totalRows limit).shownRows ≤ limit := by
    by_cases fits : totalRows ≤ limit
    · rwa [ofRows_of_le fits]
    · rw [ofRows_of_lt (Nat.lt_of_not_le fits)]
      simp only [shownRows,PreviewWindow.ranges,List.map_cons,List.map_nil,List.sum_cons,List.sum_nil]
      omega
  refine ⟨?_,ranges,ascending_of_apart ranges,rows_ofRows_of_le,rows_ofRows_of_lt,?_,
    shownRows_eq_length _,limited⟩
  · by_cases fits : totalRows ≤ limit
    · rw [ofRows_of_le fits]
      simp [PreviewWindow.ranges]
    · rw [ofRows_of_lt (Nat.lt_of_not_le fits)]
      simp only [PreviewWindow.ranges,List.mem_cons,List.not_mem_nil,or_false]
      rintro r (rfl | rfl)
      · omega
      · omega
  · constructor
    · -- A window that shows every row shows as many as there are, and no more than the limit.
      intro every
      have subset : List.range totalRows ⊆ (ofRows totalRows limit).rows :=
        fun i hi => every i (List.mem_range.mp hi)
      have count := (List.nodup_range.subperm subset).length_le
      rw [List.length_range,← shownRows_eq_length] at count
      exact count.trans limited
    · intro fits i hi
      rw [rows_ofRows_of_le fits]
      exact List.mem_range.mpr hi

end PreviewWindow

/-! ### What is asked of the renderer -/

section

variable {source : Source} {path : Path} {o : InspectOptions} {t : Table} {w : PreviewWindow}

/-- The answers to the calls for these ranges, in their order, are all that an inspection takes from the
renderer of its table, and each is asked for unless one before it fails. -/
structure AsksFor (path : Path) (o : InspectOptions) (t : Table) (ranges : List (Nat × Nat)) : Prop where
  only : ∀ render, (∀ call r, ranges[call]? = some r → render call r.1 r.2 = t.render call r.1 r.2) →
    ∀ source source' : Source, source path = .ok t → source' path = .ok { t with render := render } →
      ∀ s, inspect source' path o s = inspect source path o s
  each : ∀ call r e, ranges[call]? = some r → t.render call r.1 r.2 = .error e →
    (∀ before < call, ∀ q, ranges[before]? = some q → ∃ rows, t.render before q.1 q.2 = .ok rows) →
    ∀ source : Source, source path = .ok t → ∀ s : Sink, s.NeverFails →
      (inspect source path o s).result = .error (.source e)

namespace Report

theorem preview_congr {render : RowRenderer}
    (h : ∀ call r, w.ranges[call]? = some r → render call r.1 r.2 = t.render call r.1 r.2) :
    preview { t with render := render } w = preview t w := by
  have same {call offset len : Nat} (hr : w.ranges[call]? = some (offset,len)) :
      rows { t with render := render } call offset len = rows t call offset len := by
    have answer : render call offset len = t.render call offset len := h call (offset,len) hr
    rw [rows,rows]
    simp only [answer]
  cases w with
  | all count => rw [preview,preview,same rfl]
  | split head tailOffset tail => rw [preview,preview,same rfl,same rfl]

theorem preview_of_fault {call : Nat} {r : Nat × Nat} {e : SourceError}
    (hr : w.ranges[call]? = some r) (he : t.render call r.1 r.2 = .error e)
    (drawn : ∀ before < call, ∀ q, w.ranges[before]? = some q → ∃ rows, t.render before q.1 q.2 = .ok rows) :
    ∃ text, preview t w = ⟨text,.error (.source e)⟩ := by
  cases w with
  | all count =>
    cases call with
    | zero =>
      obtain rfl : (0,count) = r := by simpa [PreviewWindow.ranges] using hr
      rw [preview,rows_of_error he]
      exact ⟨_,rfl⟩
    | succ call => simp [PreviewWindow.ranges] at hr
  | split head tailOffset tail =>
    cases call with
    | zero =>
      obtain rfl : (0,head) = r := by simpa [PreviewWindow.ranges] using hr
      rw [preview,rows_of_error he]
      exact ⟨_,rfl⟩
    | succ call =>
      cases call with
      | zero =>
        obtain rfl : (tailOffset,tail) = r := by simpa [PreviewWindow.ranges] using hr
        obtain ⟨first,hfirst⟩ := drawn 0 (by decide) (0,head) rfl
        rw [preview,rows_of_ok hfirst,rows_of_error he]
        exact ⟨_,rfl⟩
      | succ call => simp [PreviewWindow.ranges] at hr

end Report

theorem asksFor_ranges (h : 0 < o.maxRows) (path : Path) (t : Table) :
    AsksFor path o t (PreviewWindow.ofRows t.numRows o.maxRows).ranges := by
  have hw := PreviewWindow.select_of_pos h t.numRows
  constructor
  · intro render same source source' hl hl' s
    have passage : Report.passage path o.showChunks { t with render := render }
          (.ofRows t.numRows o.maxRows) =
        Report.passage path o.showChunks t (.ofRows t.numRows o.maxRows) := by
      rw [Report.passage,Report.preview_congr same]
      rfl
    rw [inspect_of_loaded h hl hw rfl,inspect_of_loaded h hl' hw rfl,passage]
  · intro call r e hr he drawn source hl s free
    obtain ⟨text,fault⟩ := Report.preview_of_fault hr he drawn
    rw [inspect_of_preview_error h hl hw free fault]

end

/-! ### Rows of a batch -/

namespace Arrow
namespace Batch

variable {fs : Fields}

/-- The range that is taken of so many rows where a range is asked for, as offset and length: none where
the arithmetic of words has no result, or where the range ends beyond the last row. -/
def held? (greatest numRows offset len : Nat) : Option (Nat × Nat) := do
  let start := min offset numRows
  let rest ← wordDifference? numRows start
  let past ← wordSum? greatest start (min len rest)
  if past ≤ numRows then some (start,min len rest) else none

theorem held?_eq {greatest numRows : Nat} (h : numRows ≤ greatest) (offset len : Nat) :
    held? greatest numRows offset len =
      some (min offset numRows,min len (numRows-min offset numRows)) := by
  have start : min offset numRows ≤ numRows := min_le_right _ _
  have past : min offset numRows+min len (numRows-min offset numRows) ≤ numRows := by omega
  simp only [held?,wordDifference?_of_le start,wordSum?_of_le (past.trans h),Option.bind_eq_bind,
    Option.bind_some,if_pos past]

/-- Rows taken by a range that is held to a list are those behind the offset, up to the length. -/
theorem cut_held {α : Type} (xs : List α) (offset len : Nat) :
    cut xs (min offset xs.length) (min len (xs.length-min offset xs.length)) =
      (xs.drop offset).take len := by
  rw [cut]
  rcases Nat.le_total offset xs.length with inside | beyond
  · rw [min_eq_left inside,← List.length_drop,List.take_eq_take_min (i := len)]
  · rw [min_eq_right beyond,List.drop_of_length_le (le_refl _),List.drop_of_length_le beyond,
      List.take_nil,List.take_nil]

theorem values_slice_eq_cut (b : Batch fs) (offset len : Nat) :
    (b.slice offset len).values = cut b.values offset len :=
  map_range_cut fun _ hi => b.columns.values_slice offset hi

theorem values_window (b : Batch fs) (offset len : Nat) :
    (b.window offset len).values = (b.values.drop offset).take len := by
  have rows : b.values.length = b.numRows := by simp [values]
  have held := cut_held b.values offset len
  rw [rows] at held
  rw [← held]
  exact b.values_slice_eq_cut _ _

theorem window_of_within (b : Batch fs) {offset len : Nat} (h : offset+len ≤ b.numRows) :
    b.window offset len = b.slice offset len := by
  have start : min offset b.numRows = offset := by omega
  have count : min len (b.numRows-offset) = len := by omega
  rw [window,start,count]

section

variable [ZoneDatabase]

theorem grid_window (b : Batch fs) (offset len : Nat) :
    (b.window offset len).grid = ⟨b.grid.header,(b.grid.rows.drop offset).take len⟩ := by
  have rows : b.grid.rows.length = b.numRows := by simp [grid]
  have held := cut_held b.grid.rows offset len
  rw [rows] at held
  rw [← held]
  have texts : ∀ i < min len (b.numRows-min offset b.numRows),
      (b.window offset len).columns.texts i = b.columns.texts (min offset b.numRows+i) :=
    fun i hi => Columns.texts_eq (b.columns.values_slice (min offset b.numRows) hi)
  exact congrArg (Text.Grid.mk b.grid.header) (map_range_cut texts)

/-- A drawing of rows of the batch, under its header. -/
def drawing (b : Batch fs) (rows : List (List String)) : Except SourceError String :=
  match fs.fault? with
  | some e => .error (.render e.message)
  | none => .ok (Text.Grid.text ⟨b.grid.header,rows⟩)

theorem draw_eq_drawing (b : Batch fs) (call offset len : Nat) :
    b.draw call offset len = b.drawing ((b.grid.rows.drop offset).take len) := by
  cases fault : fs.fault? with
  | none => simp only [draw,drawing,fault,grid_window]
  | some e => simp only [draw,drawing,fault]

/-- What a renderer takes and draws where a range is asked for. -/
structure Renders (b : Batch fs) (greatest offset len : Nat) : Prop where
  held : ∃ start count, held? greatest b.numRows offset len = some (start,count) ∧
    start+count ≤ b.numRows ∧ b.window offset len = b.slice start count
  values : (b.window offset len).values = (b.values.drop offset).take len
  drawn : ∀ call, b.draw call offset len = b.drawing ((b.grid.rows.drop offset).take len)

theorem renders (b : Batch fs) {greatest : Nat} (h : b.numRows ≤ greatest) (offset len : Nat) :
    b.Renders greatest offset len :=
  ⟨⟨_,_,held?_eq h offset len,by omega,rfl⟩,b.values_window offset len,
    fun call => b.draw_eq_drawing call offset len⟩

end

end Batch
end Arrow

/-- The preview shows the right rows, once each, in words up to any greatest one, and a renderer of a
batch draws them as they are asked for. -/
theorem preview_rows [ZoneDatabase] (greatest : Nat) :
    (∀ totalRows limit, totalRows ≤ greatest → limit ≤ greatest → 0 < limit →
      ∃ w, PreviewWindow.select totalRows limit = .ok w ∧ w.Shows totalRows limit ∧
        PreviewWindow.ofRows? totalRows limit = some w ∧ w.shownRows? greatest = some w.shownRows) ∧
    (∀ path o t w, PreviewWindow.select t.numRows o.maxRows = .ok w → AsksFor path o t w.ranges) ∧
    (∀ fs (b : Arrow.Batch fs), b.numRows ≤ greatest → ∀ offset len, b.Renders greatest offset len) ∧
    ∀ fs (b : Arrow.Batch fs) limit w, PreviewWindow.select b.numRows limit = .ok w →
      ∀ r ∈ w.ranges, b.window r.1 r.2 = b.slice r.1 r.2 := by
  have positive {totalRows limit : Nat} {w : PreviewWindow}
      (hw : PreviewWindow.select totalRows limit = .ok w) :
      0 < limit ∧ PreviewWindow.ofRows totalRows limit = w := by
    rcases Nat.eq_zero_or_pos limit with rfl | positive
    · cases hw
    · exact ⟨positive,Except.ok.inj ((PreviewWindow.select_of_pos positive totalRows).symm.trans hw)⟩
  refine ⟨?_,?_,fun fs b h => b.renders h,?_⟩
  · intro totalRows limit _ small limited
    exact ⟨_,PreviewWindow.select_of_pos limited totalRows,PreviewWindow.shows_ofRows totalRows limit,
      PreviewWindow.ofRows?_eq totalRows limit,PreviewWindow.shownRows?_ofRows small⟩
  · intro path o t w hw
    obtain ⟨limited,rfl⟩ := positive hw
    exact asksFor_ranges limited path t
  · intro fs b limit w hw r hr
    obtain ⟨-,rfl⟩ := positive hw
    exact b.window_of_within ((PreviewWindow.shows_ofRows b.numRows limit).within r hr)

def Arrow.Batch.ofFive : Arrow.Batch (.cons (.mk "n" (.scalar (.integer .int8)) true) .nil) :=
  let two : Arrow.FixedInt true 8 := .wrap 8 2
  ⟨5,.cons (.scalar [some two,some two,none,some two,some two]) .nil,by decide⟩

attribute [local instance] ZoneDatabase.universal

theorem preview_rows_of_greatest_words :
    (∃ w, PreviewWindow.select 18446744073709551615 18446744073709551614 = .ok w ∧
      w.shownRows? 18446744073709551615 = some 18446744073709551614) ∧
    AsksFor (.ofString "data.parquet") ⟨3,false⟩ .withTwoGroups [(0,1),(4,1)] ∧
    (Arrow.Batch.ofFive.window 4 9).values = Arrow.Batch.ofFive.values.drop 4 ∧
    Arrow.Batch.ofFive.window 4 1 = Arrow.Batch.ofFive.slice 4 1 := by
  obtain ⟨shown,asked,drawn,within⟩ := preview_rows 18446744073709551615
  refine ⟨?_,asked _ ⟨3,false⟩ .withTwoGroups _ rfl,?_,within _ .ofFive 3 _ rfl (4,1) (by decide)⟩
  · obtain ⟨w,hw,-,-,sum⟩ := shown 18446744073709551615 18446744073709551614
      (by decide) (by decide) (by decide)
    refine ⟨w,hw,sum.trans ?_⟩
    cases hw
    rfl
  · exact (drawn _ .ofFive (by decide) 4 9).values

end ColumnarReport
