import Mathlib
import ColumnarReport.Proofs.Emission
import ColumnarReport.Proofs.TemplateName

/-! How an inspection ends, and what it has written by then. The report is one passage, so a run
is decided by the limit, then by the source, then by where the passage has its fault: in the first
rows that are not drawn, or behind the preview where the path names no file. -/
namespace ColumnarReport

namespace PreviewWindow

def ofRows (totalRows limit : Nat) : PreviewWindow :=
  if totalRows ≤ limit then .all totalRows
  else .split (limit/2) (totalRows-limit/2) (limit/2)

theorem select_of_pos {limit : Nat} (h : 0 < limit) (totalRows : Nat) :
    select totalRows limit = .ok (ofRows totalRows limit) := by
  rw [select,if_neg h.ne',ofRows]
  by_cases fits : totalRows ≤ limit
  · rw [if_pos fits,if_pos fits]
  · rw [if_neg fits,if_neg fits]

end PreviewWindow

namespace Report

open Text

def opening (path : Path) (showChunks : Bool) (t : Table) : String :=
  banner path++schemaSection t++metadataSection t++
  (if showChunks then chunkSection t.footer.rowGroups else "")++columnSection t.columns

def rows (t : Table) (call offset len : Nat) : Passage :=
  match t.render call offset len with
  | .ok text => .whole (text++"\n")
  | .error e => .fault (.source e)

def preview (t : Table) (w : PreviewWindow) : Passage :=
  .whole (unlines (previewHeading w))++
  match w with
  | .all count => rows t 0 0 count
  | .split head tailOffset tail =>
    rows t 0 0 head++(.whole "...\n"++rows t 1 tailOffset tail)

def template (path : Path) (t : Table) : Passage :=
  match Template.ofTable path t.numRows t.columns with
  | .ok x => .whole (templateSection x)
  | .error e => .fault (.template e)

/-- The whole report, up to the first fault. -/
def passage (path : Path) (showChunks : Bool) (t : Table) (w : PreviewWindow) : Passage :=
  .whole (opening path showChunks t)++(preview t w++(template path t++.whole closing))

theorem rows_of_ok {t : Table} {call offset len : Nat} {text : String}
    (h : t.render call offset len = .ok text) : rows t call offset len = .whole (text++"\n") := by
  rw [rows,h]

theorem rows_of_error {t : Table} {call offset len : Nat} {e : SourceError}
    (h : t.render call offset len = .error e) : rows t call offset len = .fault (.source e) := by
  rw [rows,h]

theorem passage_of_preview_error {t : Table} {w : PreviewWindow} {text : String} {e : InspectError}
    (h : preview t w = ⟨text,.error e⟩) (path : Path) (showChunks : Bool) :
    passage path showChunks t w = ⟨opening path showChunks t++text,.error e⟩ := by
  rw [passage,h,Passage.append_of_error,Passage.whole_append]

theorem passage_of_preview_ok {t : Table} {w : PreviewWindow} {text : String}
    (h : preview t w = .whole text) (path : Path) (showChunks : Bool) :
    passage path showChunks t w =
      ⟨opening path showChunks t++text++(template path t++.whole closing).text,
        (template path t++.whole closing).ending⟩ := by
  rw [passage,h,Passage.whole_append,Passage.whole_append,String.append_assoc]

end Report

namespace Inspecting

open Report

theorem emits_writeSchema (t : Table) : Emits (writeSchema t) (.whole (schemaSection t)) := by
  have lines := emits_writeLines (schemaLines t.fields)
  have heading := emits_writeLines parquetHeading
  by_cases none : t.parquetSchema = ""
  · have h := lines.bind emits_pure
    simpa [writeSchema,schemaSection,none,Passage.whole] using h
  by_cases ended : endsLine t.parquetSchema
  · have h := lines.bind (heading.bind ((emits_write t.parquetSchema).bind emits_pure))
    simpa [writeSchema,schemaSection,none,ended,endLine,Passage.whole,String.append_assoc] using h
  · have h := lines.bind (heading.bind ((emits_write t.parquetSchema).bind (emits_writeLine "")))
    simpa [writeSchema,schemaSection,none,ended,endLine,Passage.whole,String.append_assoc] using h

theorem emits_writeChunks (shown : Bool) (rowGroups : List RowGroup) :
    Emits (writeChunks shown rowGroups)
      (.whole (if shown then chunkSection rowGroups else "")) := by
  cases shown with
  | false => exact emits_pure
  | true => exact emits_writeLines _

theorem emits_writeRows (t : Table) (call offset len : Nat) :
    Emits (writeRows t call offset len) (rows t call offset len) := by
  unfold writeRows rows
  cases t.render call offset len with
  | ok text => exact emits_ofExcept_bind (by rintro _ ⟨⟩; exact emits_writeLine text) nofun
  | error e => exact emits_ofExcept_bind nofun (by rintro _ ⟨⟩; rfl)

theorem emits_writePreview (t : Table) (w : PreviewWindow) :
    Emits (writePreview t w) (preview t w) := by
  apply (emits_writeLines (previewHeading w)).bind
  cases w with
  | all count => exact emits_writeRows t 0 0 count
  | split head tailOffset tail =>
    exact (emits_writeRows t 0 0 head).bind
      ((emits_writeLine "...").bind (emits_writeRows t 1 tailOffset tail))

theorem emits_writeTemplate (path : Path) (t : Table) :
    Emits (writeTemplate path t) (template path t) := by
  unfold writeTemplate template
  cases Template.ofTable path t.numRows t.columns with
  | ok x => exact emits_ofExcept_bind (by rintro _ ⟨⟩; exact emits_writeLines _) nofun
  | error e => exact emits_ofExcept_bind nofun (by rintro _ ⟨⟩; rfl)

theorem emits_writeReport (path : Path) (showChunks : Bool) (t : Table) (w : PreviewWindow) :
    Emits (writeReport path showChunks t w) (passage path showChunks t w) := by
  have h := (emits_writeLines (bannerLines path)).bind ((emits_writeSchema t).bind
    ((emits_writeLines (metadataLines t)).bind
      ((emits_writeChunks showChunks t.footer.rowGroups).bind
        ((emits_writeLines (columnLines t.columns)).bind ((emits_writePreview t w).bind
          ((emits_writeTemplate path t).bind (emits_writeLines closingLines)))))))
  simpa [writeReport,passage,opening,banner,metadataSection,columnSection,closing,
    String.append_assoc] using h

end Inspecting

open Inspecting

variable {source : Source} {path : Path} {o : InspectOptions} {t : Table} {w : PreviewWindow}

theorem inspect_of_zero (source : Source) (path : Path) (h : o.maxRows = 0) (s : Sink) :
    inspect source path o s = ⟨0,s,.error (.preview .zeroLimit)⟩ := by
  have run : (inspectPath source path o).runFrom ⟨0,s⟩ =
      (.error (.preview .zeroLimit),⟨0,s⟩) := by
    unfold inspectPath
    rw [if_pos h,runFrom_bind_of_error (runFrom_throw _ _)]
  rw [inspect,run]

theorem inspect_of_load_error {e : SourceError} (h : 0 < o.maxRows)
    (hl : source path = .error e) (s : Sink) :
    inspect source path o s = ⟨1,s,.error (.ofLoad e)⟩ := by
  have run : (inspectPath source path o).runFrom ⟨0,s⟩ = (.error (.ofLoad e),⟨1,s⟩) := by
    have load := runFrom_load source path ⟨0,s⟩
    rw [hl] at load
    unfold inspectPath
    rw [if_neg h.ne']
    exact runFrom_bind_of_error load _
  rw [inspect,run]

/-- A loaded table is reported, and the sink is flushed behind a whole report. -/
theorem inspect_of_loaded (h : 0 < o.maxRows) (hl : source path = .ok t)
    (hw : PreviewWindow.select t.numRows o.maxRows = .ok w) {s u : Sink}
    {r : Except InspectError Unit}
    (hd : (Report.passage path o.showChunks t w).deliver s = (r,u)) :
    inspect source path o s = ⟨1,u,r.bind fun _ => u.flush⟩ := by
  have run : (inspectPath source path o).runFrom ⟨0,s⟩ = (r.bind fun _ => u.flush,⟨1,u⟩) := by
    have load := runFrom_load source path ⟨0,s⟩
    have report := emits_writeReport path o.showChunks t w ⟨1,s⟩
    have window : runFrom (ofExcept ((PreviewWindow.select t.numRows o.maxRows).mapError
        InspectError.preview)) ⟨1,s⟩ = (.ok w,⟨1,s⟩) := by
      rw [hw]
      exact runFrom_ofExcept _ _
    rw [hl] at load
    rw [hd] at report
    unfold inspectPath
    rw [if_neg h.ne']
    refine (runFrom_bind_of_ok load _).trans ?_
    refine (runFrom_bind_of_ok window _).trans ?_
    cases r with
    | ok => exact (runFrom_bind_of_ok report _).trans (runFrom_flush _)
    | error e => exact runFrom_bind_of_error report _
  rw [inspect,run]

/-- A sink that takes everything and flushes. -/
def Sink.NeverFails (s : Sink) : Prop := s.room = none ∧ s.flushFault = none

variable {s : Sink}

/-- Nothing is lost and nothing added on the way to a sink that never fails. -/
theorem inspect_of_neverFails (h : 0 < o.maxRows) (hl : source path = .ok t)
    (hw : PreviewWindow.select t.numRows o.maxRows = .ok w) (free : s.NeverFails) :
    inspect source path o s = ⟨1,s.after (Report.passage path o.showChunks t w).text,
      (Report.passage path o.showChunks t w).ending⟩ := by
  rw [inspect_of_loaded h hl hw (Passage.deliver_of_no_limit free.1 _)]
  cases (Report.passage path o.showChunks t w).ending with
  | ok => simp [Except.bind,Sink.flush,Sink.after,free.2]
  | error e => rfl

/-- How a run ends behind a whole preview, with what is shown by then: a path without a text name
has no template, and with one the template and the closing rule follow. -/
structure Inspection.EndsByName (run : Inspection) (path : Path) (t : Table) (s : Sink)
    (shown : String) : Prop where
  nameless : ¬ path.HasTextName →
    run = ⟨1,s.after shown,.error (.template (.noFileName path))⟩
  named : path.HasTextName → ∃ x, Template.ofTable path t.numRows t.columns = .ok x ∧
    run = ⟨1,s.after (shown++Report.templateSection x++Report.closing),.ok ()⟩

theorem inspect_of_preview_ok (h : 0 < o.maxRows) (hl : source path = .ok t)
    (hw : PreviewWindow.select t.numRows o.maxRows = .ok w) (free : s.NeverFails) {text : String}
    (hp : Report.preview t w = .whole text) :
    (inspect source path o s).EndsByName path t s (Report.opening path o.showChunks t++text) := by
  have run := inspect_of_neverFails h hl hw free
  rw [Report.passage_of_preview_ok hp] at run
  constructor
  · intro nameless
    have fault := Template.ofTable_of_not_hasTextName nameless t.numRows t.columns
    simpa [Report.template,fault,Passage.fault] using run
  · intro named
    obtain ⟨name,hname⟩ := named
    have hx := Template.ofTable_of_name hname t.numRows t.columns
    refine ⟨_,hx,?_⟩
    simpa [Report.template,hx,Passage.whole,String.append_assoc] using run

theorem inspect_of_preview_error (h : 0 < o.maxRows) (hl : source path = .ok t)
    (hw : PreviewWindow.select t.numRows o.maxRows = .ok w) (free : s.NeverFails) {text : String}
    {e : InspectError} (hp : Report.preview t w = ⟨text,.error e⟩) :
    inspect source path o s = ⟨1,s.after (Report.opening path o.showChunks t++text),.error e⟩ := by
  rw [inspect_of_neverFails h hl hw free,Report.passage_of_preview_error hp]

theorem inspect_of_all (h : 0 < o.maxRows) (hl : source path = .ok t) (free : s.NeverFails)
    (fits : t.numRows ≤ o.maxRows) :
    let heading := Report.opening path o.showChunks t++
      Text.unlines (Report.previewHeading (.all t.numRows))
    (∀ e, t.render 0 0 t.numRows = .error e →
      inspect source path o s = ⟨1,s.after heading,.error (.source e)⟩) ∧
    ∀ rows, t.render 0 0 t.numRows = .ok rows →
      (inspect source path o s).EndsByName path t s (heading++rows++"\n") := by
  have hw : PreviewWindow.select t.numRows o.maxRows = .ok (.all t.numRows) := by
    rw [PreviewWindow.select,if_neg h.ne',if_pos fits]
  refine ⟨?_,?_⟩
  · intro e he
    apply inspect_of_preview_error h hl hw free
    simp [Report.preview,Report.rows_of_error he,Passage.fault]
  · intro rows hrows
    have hp : Report.preview t (.all t.numRows) =
        .whole (Text.unlines (Report.previewHeading (.all t.numRows))++rows++"\n") := by
      simp [Report.preview,Report.rows_of_ok hrows,Passage.whole,String.append_assoc]
    simpa [String.append_assoc] using inspect_of_preview_ok h hl hw free hp

theorem inspect_of_split (h : 0 < o.maxRows) (hl : source path = .ok t) (free : s.NeverFails)
    (longer : o.maxRows < t.numRows) :
    let half := o.maxRows/2
    let heading := Report.opening path o.showChunks t++
      Text.unlines (Report.previewHeading (.split half (t.numRows-half) half))
    (∀ e, t.render 0 0 half = .error e →
      inspect source path o s = ⟨1,s.after heading,.error (.source e)⟩) ∧
    ∀ head, t.render 0 0 half = .ok head →
      (∀ e, t.render 1 (t.numRows-half) half = .error e →
        inspect source path o s = ⟨1,s.after (heading++head++"\n...\n"),.error (.source e)⟩) ∧
      ∀ tail, t.render 1 (t.numRows-half) half = .ok tail →
        (inspect source path o s).EndsByName path t s (heading++head++"\n...\n"++tail++"\n") := by
  intro half heading
  have hw : PreviewWindow.select t.numRows o.maxRows = .ok (.split half (t.numRows-half) half) := by
    rw [PreviewWindow.select,if_neg h.ne',if_neg longer.not_ge]
  refine ⟨?_,?_⟩
  · intro e he
    apply inspect_of_preview_error h hl hw free
    simp [Report.preview,Report.rows_of_error he,Passage.fault]
  intro head hhead
  refine ⟨?_,?_⟩
  · intro e he
    have hp : Report.preview t (.split half (t.numRows-half) half) =
        ⟨Text.unlines (Report.previewHeading (.split half (t.numRows-half) half))++head++"\n...\n",
          .error (.source e)⟩ := by
      simp [Report.preview,Report.rows_of_ok hhead,Report.rows_of_error he,Passage.fault,
        String.append_assoc]
    simpa [heading,String.append_assoc] using inspect_of_preview_error h hl hw free hp
  · intro tail htail
    have dots (rest : String) : "\n"++("...\n"++rest) = "\n...\n"++rest := by
      rw [← String.append_assoc]
      rfl
    have hp : Report.preview t (.split half (t.numRows-half) half) =
        .whole (Text.unlines (Report.previewHeading (.split half (t.numRows-half) half))++head++
          "\n...\n"++tail++"\n") := by
      simp [Report.preview,Report.rows_of_ok hhead,Report.rows_of_ok htail,Passage.whole,
        String.append_assoc,dots]
    simpa [heading,String.append_assoc] using inspect_of_preview_ok h hl hw free hp

/-- How an inspection ends, and with what written, for a sink that never fails. -/
theorem inspect_outcome (source : Source) (path : Path) (o : InspectOptions) (s : Sink)
    (free : s.NeverFails) :
    (o.maxRows = 0 → inspect source path o s = ⟨0,s,.error (.preview .zeroLimit)⟩) ∧
    (0 < o.maxRows →
      (∀ q, source path = .error (.notFound q) →
        inspect source path o s = ⟨1,s,.error (.notFound q)⟩) ∧
      (∀ e, source path = .error e → (∀ q, e ≠ .notFound q) →
        inspect source path o s = ⟨1,s,.error (.source e)⟩) ∧
      ∀ t, source path = .ok t →
        (t.numRows ≤ o.maxRows →
          let heading := Report.opening path o.showChunks t++
            Text.unlines (Report.previewHeading (.all t.numRows))
          (∀ e, t.render 0 0 t.numRows = .error e →
            inspect source path o s = ⟨1,s.after heading,.error (.source e)⟩) ∧
          ∀ rows, t.render 0 0 t.numRows = .ok rows →
            (inspect source path o s).EndsByName path t s (heading++rows++"\n")) ∧
        (o.maxRows < t.numRows →
          let half := o.maxRows/2
          let heading := Report.opening path o.showChunks t++
            Text.unlines (Report.previewHeading (.split half (t.numRows-half) half))
          (∀ e, t.render 0 0 half = .error e →
            inspect source path o s = ⟨1,s.after heading,.error (.source e)⟩) ∧
          ∀ head, t.render 0 0 half = .ok head →
            (∀ e, t.render 1 (t.numRows-half) half = .error e →
              inspect source path o s =
                ⟨1,s.after (heading++head++"\n...\n"),.error (.source e)⟩) ∧
            ∀ tail, t.render 1 (t.numRows-half) half = .ok tail →
              (inspect source path o s).EndsByName path t s
                (heading++head++"\n...\n"++tail++"\n"))) := by
  refine ⟨fun h => inspect_of_zero source path h s,fun h => ⟨?_,?_,?_⟩⟩
  · intro q hl
    exact inspect_of_load_error h hl s
  · intro e hl other
    rw [inspect_of_load_error h hl]
    cases e with
    | notFound q => exact (other q rfl).elim
    | io text => rfl
    | decode text => rfl
    | render text => rfl
  · intro t hl
    exact ⟨inspect_of_all h hl free,inspect_of_split h hl free⟩

/-- Five rows, of which the limit of four leaves two at each end, and the last two are not drawn. -/
def Table.withLostTail : Table :=
  { fields := []
    parquetSchema := ""
    footer := ⟨none,1,4,0,[],[]⟩
    columns := []
    numRows := 5
    render := fun call _ _ => if call = 0 then .ok "rows" else .error (.render "lost") }

theorem inspect_outcome_of_lost_tail :
    inspect (fun _ => .ok .withLostTail) (.ofString "data.parquet") ⟨4,false⟩ .unlimited =
      ⟨1,Sink.unlimited.after
        (Report.opening (.ofString "data.parquet") false .withLostTail++
          "\n### DATA PREVIEW ###\nShowing first 2 and last 2 rows:\n\nrows\n...\n"),
        .error (.source (.render "lost"))⟩ := by
  have loaded := ((inspect_outcome (fun _ => .ok .withLostTail) (.ofString "data.parquet") ⟨4,false⟩
    .unlimited ⟨rfl,rfl⟩).2 (by decide)).2.2 .withLostTail rfl
  have run := ((loaded.2 (by decide)).2 "rows" rfl).1 (.render "lost") rfl
  rw [String.append_assoc,String.append_assoc] at run
  exact run

end ColumnarReport
