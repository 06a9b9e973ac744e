import Mathlib
import ColumnarReport.Proofs.Outcome

/-! What an option changes in the report. A whole report is five texts in a row: the flag reaches
only the second, the chunk details, and the limit only the fourth, the preview. Two reports of one
table agree in the other three. -/
namespace ColumnarReport

namespace PreviewWindow

/-- A limit shows what another does where the table is within both, or longer than both and their
halves agree. -/
theorem ofRows_congr {totalRows a b : Nat}
    (h : totalRows ≤ a ∧ totalRows ≤ b ∨ a < totalRows ∧ b < totalRows ∧ a/2 = b/2) :
    ofRows totalRows a = ofRows totalRows b := by
  rcases h with ⟨ha,hb⟩ | ⟨ha,hb,half⟩
  · rw [ofRows,ofRows,if_pos ha,if_pos hb]
  · rw [ofRows,ofRows,if_neg ha.not_ge,if_neg hb.not_ge,half]

def Drawn (w : PreviewWindow) (render : RowRenderer) : Prop :=
  ∀ call range, w.ranges[call]? = some range → ∃ rows, render call range.1 range.2 = .ok rows

end PreviewWindow

namespace Report

open Text

def chunkText (shown : Bool) (first : Option RowGroup) : String :=
  if shown then chunkSection first.toList else ""

theorem chunkText_head? (shown : Bool) (rowGroups : List RowGroup) :
    chunkText shown rowGroups.head? = if shown then chunkSection rowGroups else "" := by
  cases rowGroups <;> rfl

theorem chunkText_eq_empty_iff (shown : Bool) (first : Option RowGroup) :
    chunkText shown first = "" ↔ shown = false := by
  cases shown with
  | false => exact iff_of_true rfl rfl
  | true =>
    refine iff_of_false (fun empty => ?_) Bool.noConfusion
    have chars : (unlines (firstGroupLines first.toList)).toList = [] := congrArg String.toList empty
    simp [toList_unlines,firstGroupLines] at chars

def drawing (render : RowRenderer) (call offset len : Nat) : String :=
  match render call offset len with
  | .ok rows => rows++"\n"
  | .error _ => ""

def previewText (render : RowRenderer) (w : PreviewWindow) : String :=
  unlines (previewHeading w)++
  match w with
  | .all count => drawing render 0 0 count
  | .split head tailOffset tail =>
    drawing render 0 0 head++("...\n"++drawing render 1 tailOffset tail)

theorem rows_of_drawn {t : Table} {w : PreviewWindow} (h : w.Drawn t.render)
    {call offset len : Nat} (hr : w.ranges[call]? = some (offset,len)) :
    rows t call offset len = .whole (drawing t.render call offset len) := by
  obtain ⟨text,htext⟩ := h call (offset,len) hr
  rw [rows_of_ok htext,drawing,htext]

theorem preview_of_drawn {t : Table} {w : PreviewWindow} (h : w.Drawn t.render) :
    preview t w = .whole (previewText t.render w) := by
  cases w with
  | all count =>
    have drawn : rows t 0 0 count = _ := rows_of_drawn h rfl
    rw [preview,drawn]
    rfl
  | split head tailOffset tail =>
    have first : rows t 0 0 head = _ := rows_of_drawn h rfl
    have last : rows t 1 tailOffset tail = _ := rows_of_drawn h rfl
    rw [preview,first,last]
    rfl

theorem ending_passage (path : Path) (showChunks : Bool) (t : Table) (w : PreviewWindow) :
    (passage path showChunks t w).ending = (preview t w++(template path t++.whole closing)).ending := by
  rw [passage,Passage.whole_append]

end Report

open Report

variable {source : Source} {path : Path} {t : Table} {s : Sink}

/-- A whole report by its five texts. -/
theorem inspect_of_drawn {x : Template} {o : InspectOptions} (hl : source path = .ok t)
    (hx : Template.ofTable path t.numRows t.columns = .ok x) (h : 0 < o.maxRows)
    (drawn : (PreviewWindow.ofRows t.numRows o.maxRows).Drawn t.render) (free : s.NeverFails) :
    inspect source path o s =
      ⟨1,s.after (banner path++schemaSection t++metadataSection t++
        chunkText o.showChunks t.footer.rowGroups.head?++columnSection t.columns++
        previewText t.render (.ofRows t.numRows o.maxRows)++(templateSection x++closing)),.ok ()⟩ := by
  have hw := PreviewWindow.select_of_pos h t.numRows
  rw [inspect_of_neverFails h hl hw free,passage_of_preview_ok (preview_of_drawn drawn),
    chunkText_head?,template,hx,Passage.whole_append]
  rfl

/-- Whether the chunks are shown decides nothing about success or failure. -/
theorem result_inspect_congr (source : Source) (path : Path) (limit : Nat) (free : s.NeverFails)
    (shown hidden : Bool) :
    (inspect source path ⟨limit,shown⟩ s).result = (inspect source path ⟨limit,hidden⟩ s).result := by
  rcases Nat.eq_zero_or_pos limit with zero | positive
  · rw [inspect_of_zero source path zero,inspect_of_zero source path zero]
  cases hl : source path with
  | error e => rw [inspect_of_load_error positive hl,inspect_of_load_error positive hl]
  | ok t =>
    have hw := PreviewWindow.select_of_pos positive t.numRows
    rw [inspect_of_neverFails positive hl hw free,inspect_of_neverFails positive hl hw free]
    exact (ending_passage path shown t _).trans (ending_passage path hidden t _).symm

/-- Two reports of one table differ at most in the chunk details, which only the flag and the first
row group decide, and in the preview, which only the limit, the row count and the renderer
decide. -/
theorem inspect_sections (source : Source) (path : Path) (s : Sink) (free : s.NeverFails) :
    (∀ (t : Table) (x : Template) (o₁ o₂ : InspectOptions), source path = .ok t →
      Template.ofTable path t.numRows t.columns = .ok x → 0 < o₁.maxRows → 0 < o₂.maxRows →
      (PreviewWindow.ofRows t.numRows o₁.maxRows).Drawn t.render →
      (PreviewWindow.ofRows t.numRows o₂.maxRows).Drawn t.render →
      let above := banner path++schemaSection t++metadataSection t
      let chunks (o : InspectOptions) := chunkText o.showChunks t.footer.rowGroups.head?
      let columns := columnSection t.columns
      let preview (o : InspectOptions) := previewText t.render (.ofRows t.numRows o.maxRows)
      let below := templateSection x++closing
      inspect source path o₁ s =
        ⟨1,s.after (above++chunks o₁++columns++preview o₁++below),.ok ()⟩ ∧
      inspect source path o₂ s =
        ⟨1,s.after (above++chunks o₂++columns++preview o₂++below),.ok ()⟩ ∧
      (chunks o₁ = "" ↔ o₁.showChunks = false) ∧ (chunks o₂ = "" ↔ o₂.showChunks = false) ∧
      (t.numRows ≤ o₁.maxRows ∧ t.numRows ≤ o₂.maxRows → preview o₁ = preview o₂) ∧
      (o₁.maxRows < t.numRows ∧ o₂.maxRows < t.numRows ∧ o₁.maxRows/2 = o₂.maxRows/2 →
        preview o₁ = preview o₂)) ∧
    ∀ limit, (inspect source path ⟨limit,true⟩ s).result =
      (inspect source path ⟨limit,false⟩ s).result := by
  refine ⟨?_,fun limit => result_inspect_congr source path limit free true false⟩
  intro t x o₁ o₂ hl hx h₁ h₂ drawn₁ drawn₂ above chunks columns preview below
  have samePreview (h : t.numRows ≤ o₁.maxRows ∧ t.numRows ≤ o₂.maxRows ∨
      o₁.maxRows < t.numRows ∧ o₂.maxRows < t.numRows ∧ o₁.maxRows/2 = o₂.maxRows/2) :
      preview o₁ = preview o₂ :=
    congrArg (previewText t.render) (PreviewWindow.ofRows_congr h)
  exact ⟨inspect_of_drawn hl hx h₁ drawn₁ free,inspect_of_drawn hl hx h₂ drawn₂ free,
    chunkText_eq_empty_iff _ _,chunkText_eq_empty_iff _ _,
    fun within => samePreview (.inl within),fun longer => samePreview (.inr longer)⟩

def Table.withTwoGroups : Table :=
  { fields := []
    parquetSchema := ""
    footer := ⟨none,1,4,0,[],[⟨3,0,0,[]⟩,⟨2,0,0,[]⟩]⟩
    columns := []
    numRows := 5
    render := fun _ offset len => .ok s!"{offset}+{len}" }

/-- Limits of two and three leave one row at each end, so only the chunk details make a
difference. -/
theorem inspect_sections_of_two_groups :
    let run (o : InspectOptions) :=
      inspect (fun _ => .ok .withTwoGroups) (.ofString "data.parquet") o .unlimited
    ∃ above chunks below, chunks ≠ "" ∧
      run ⟨2,true⟩ = ⟨1,Sink.unlimited.after (above++chunks++below),.ok ()⟩ ∧
      run ⟨3,false⟩ = ⟨1,Sink.unlimited.after (above++below),.ok ()⟩ := by
  intro run
  let t := Table.withTwoGroups
  let x := Template.ofName "data.parquet" t.numRows t.columns
  have last : (Path.ofString "data.parquet").components.getLast? =
      some (.name (Utf8.encode "data.parquet")) := by decide
  have hx : Template.ofTable (.ofString "data.parquet") t.numRows t.columns = .ok x :=
    Template.ofTable_of_name last t.numRows t.columns
  obtain ⟨whole,bare,shown,hidden,-,halves⟩ :=
    (inspect_sections (fun _ => .ok t) (.ofString "data.parquet") .unlimited ⟨rfl,rfl⟩).1 t x
      ⟨2,true⟩ ⟨3,false⟩ rfl hx (by decide) (by decide) (fun _ _ _ => ⟨_,rfl⟩) (fun _ _ _ => ⟨_,rfl⟩)
  rw [← halves (by decide),hidden.mpr rfl,String.append_empty] at bare
  refine ⟨banner (.ofString "data.parquet")++schemaSection t++metadataSection t,
    chunkText true t.footer.rowGroups.head?,columnSection t.columns++
      (previewText t.render (.ofRows t.numRows 2)++(templateSection x++closing)),
    shown.not.mpr Bool.noConfusion,?_,?_⟩
  · simpa only [String.append_assoc] using whole
  · simpa only [String.append_assoc] using bare

end ColumnarReport
