import ColumnarReport.Report

/-! One inspection: the report of the table at a path, written line by line to a sink. -/
namespace ColumnarReport

structure InspectOptions where
  maxRows : Nat
  showChunks : Bool
  deriving DecidableEq

def InspectOptions.default : InspectOptions := ⟨PreviewWindow.defaultLimit,false⟩

inductive InspectError
  | notFound (path : Path)
  | source (cause : SourceError)
  | preview (cause : PreviewError)
  | template (cause : TemplateError)
  | write (text : String)
  deriving DecidableEq

namespace InspectError

def message : InspectError → String
  | notFound p => "File not found: "++p.display
  | source e => e.message
  | preview e => "Invalid preview size: "++e.message
  | template e => "Cannot build test template: "++e.message
  | write text => "Failed to write report: "++text

/-- A missing file is an outcome of its own; other faults of the source stay what they are. -/
def ofLoad : SourceError → InspectError
  | .notFound p => notFound p
  | e => source e

end InspectError

/-- Where a report is written: the bytes it took, how many more it takes, and its faults. -/
structure Sink where
  taken : List UInt8
  /-- Without a limit every byte is taken. -/
  room : Option Nat
  writeFault : String
  flushFault : Option String
  deriving DecidableEq

namespace Sink

def unlimited : Sink := ⟨[],none,"",none⟩

/-- Takes as much of the text as there is room for, and fails if that is not all of it. -/
def write (s : Sink) (text : String) : Sink × Except InspectError Unit :=
  let bytes := Utf8.encode text
  match s.room with
  | none => ({ s with taken := s.taken++bytes },.ok ())
  | some n =>
    ({ s with taken := s.taken++bytes.take n, room := some (n-bytes.length) },
      if bytes.length ≤ n then .ok () else .error (.write s.writeFault))

def flush (s : Sink) : Except InspectError Unit :=
  match s.flushFault with
  | none => .ok ()
  | some text => .error (.write text)

end Sink

/-- What an inspection did so far: how often the source was asked for a table, and what was
written. -/
structure Progress where
  loads : Nat
  sink : Sink
  deriving DecidableEq

/-- A run of inspection steps. A failure ends it and keeps what was done before. -/
abbrev Inspecting := ExceptT InspectError (StateM Progress)

namespace Inspecting

def runFrom {α : Type} (m : Inspecting α) (p : Progress) : Except InspectError α × Progress :=
  (m.run.run p).run

def load (source : Source) (path : Path) : Inspecting Table := do
  modify fun p => { p with loads := p.loads+1 }
  ofExcept ((source path).mapError .ofLoad)

def write (text : String) : Inspecting Unit := do
  let p ← get
  let (sink,result) := p.sink.write text
  set { p with sink := sink }
  ofExcept result

def writeLine (line : String) : Inspecting Unit := write (line++"\n")

def writeLines (lines : List String) : Inspecting Unit := lines.forM writeLine

def flush : Inspecting Unit := do ofExcept (← get).sink.flush

/-- Draws rows and writes them; `call` counts the earlier calls of the renderer. -/
def writeRows (t : Table) (call offset len : Nat) : Inspecting Unit := do
  let rows ← ofExcept ((t.render call offset len).mapError .source)
  writeLine rows

def writeSchema (t : Table) : Inspecting Unit := do
  writeLines (Report.schemaLines t.fields)
  unless t.parquetSchema = "" do
    writeLines Report.parquetHeading
    write t.parquetSchema
    unless Report.endsLine t.parquetSchema do writeLine ""

def writeChunks (shown : Bool) (rowGroups : List RowGroup) : Inspecting Unit := do
  if shown then writeLines (Report.firstGroupLines rowGroups)

def writePreview (t : Table) (w : PreviewWindow) : Inspecting Unit := do
  writeLines (Report.previewHeading w)
  match w with
  | .all rows => writeRows t 0 0 rows
  | .split head tailOffset tail =>
    writeRows t 0 0 head
    writeLine "..."
    writeRows t 1 tailOffset tail

/-- A path without a file name has no template. -/
def writeTemplate (path : Path) (t : Table) : Inspecting Unit := do
  let template ← ofExcept ((Template.ofTable path t.numRows t.columns).mapError .template)
  writeLines (Report.templateLines template)

def writeReport (path : Path) (showChunks : Bool) (t : Table) (w : PreviewWindow) :
    Inspecting Unit := do
  writeLines (Report.bannerLines path)
  writeSchema t
  writeLines (Report.metadataLines t)
  writeChunks showChunks t.footer.rowGroups
  writeLines (Report.columnLines t.columns)
  writePreview t w
  writeTemplate path t
  writeLines Report.closingLines

/-- A limit of zero is refused before the source is asked. -/
def inspectPath (source : Source) (path : Path) (o : InspectOptions) : Inspecting Unit := do
  if o.maxRows = 0 then throw (.preview .zeroLimit)
  let t ← load source path
  let w ← ofExcept ((PreviewWindow.select t.numRows o.maxRows).mapError .preview)
  writeReport path o.showChunks t w
  flush

end Inspecting

structure Inspection where
  loads : Nat
  sink : Sink
  result : Except InspectError Unit

def inspect (source : Source) (path : Path) (o : InspectOptions) (s : Sink) : Inspection :=
  let (result,p) := (Inspecting.inspectPath source path o).runFrom ⟨0,s⟩
  ⟨p.loads,p.sink,result⟩

end ColumnarReport
