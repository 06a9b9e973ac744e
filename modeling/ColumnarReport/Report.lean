import ColumnarReport.Preview
import ColumnarReport.Table
import ColumnarReport.Template

/-! The sections of the report, each by its lines and as text. -/
namespace ColumnarReport
namespace Report

open Text

def rule : String := String.ofList (List.replicate 80 '=')

def bannerLines (path : Path) : List String :=
  [rule,"PARQUET FILE INSPECTION: "++path.display,rule]

def banner (path : Path) : String := unlines (bannerLines path)

def endsLine (text : String) : Bool := text.toList.getLast? = some '\n'

def endLine (text : String) : String := if endsLine text then text else text++"\n"

def schemaLines (fields : List SchemaField) : List String :=
  ["","### SCHEMA ###"]++fields.map SchemaField.line

def parquetHeading : List String := ["","Parquet schema:"]

def schemaSection (t : Table) : String :=
  unlines (schemaLines t.fields)++
  (if t.parquetSchema = "" then "" else unlines parquetHeading++endLine t.parquetSchema)

def shownValueLength : Nat := 60

/-- A longer value is cut after its first characters and followed by its size in bytes. -/
def abbreviate (value : String) : String :=
  let cs := value.toList
  if cs.length ≤ shownValueLength then value
  else String.ofList (cs.take shownValueLength)++s!"... ({value.utf8ByteSize} bytes)"

def keyValueLine (e : String × Option String) : String :=
  "    "++e.1++": "++(e.2.map abbreviate).getD "<none>"

def fileSizeLines (m : Footer) : List String :=
  [s!"  File size: {m.fileSize} bytes ({m.fileMegabytes.twoDecimals} MB)",
   s!"  Serialized size: {m.serializedSize} bytes"]

def fileLines (m : Footer) : List String :=
  ["",
   "File metadata:",
   "  Created by: "++m.createdBy.getD "unknown",
   s!"  Format version: {m.formatVersion}"]++
  fileSizeLines m++
  (if m.keyValue.isEmpty then []
  else "  Key-value metadata:" :: m.keyValue.map keyValueLine)

def rowGroupLines (i : Nat) (g : RowGroup) : List String :=
  [s!"  Row Group {i}:",
   s!"    Rows: {g.numRows}",
   s!"    Columns: {g.numColumns}",
   s!"    Total byte size: {g.totalByteSize}"]++
  (g.compressionRatio.map fun r =>
    s!"    Compression ratio: {r.twoDecimals}x (uncompressed: {g.uncompressedSize}, compressed: {g.compressedSize})").toList

def totalLines (m : Footer) : List String :=
  ["",
   "Statistics summary:",
   s!"  Total uncompressed size: {m.uncompressedSize} bytes",
   s!"  Total compressed size: {m.compressedSize} bytes"]++
  (m.compressionRatio.map fun r =>
    s!"  Overall compression: {r.twoDecimals}x (saved {m.bytesSaved} bytes)").toList++
  [s!"  Average row size: {m.averageRowSize.twoDecimals} bytes"]

def metadataLines (t : Table) : List String :=
  ["",
   "### METADATA ###",
   s!"Number of row groups: {t.footer.rowGroups.length}",
   s!"Number of rows: {t.numRows}",
   s!"Number of columns: {t.columns.length}"]++
  fileLines t.footer++
  ["","Row Groups:"]++
  (t.footer.rowGroups.mapIdx rowGroupLines).flatten++
  totalLines t.footer

def metadataSection (t : Table) : String := unlines (metadataLines t)

def statisticsLines (s : ChunkStatistics) : List String :=
  "  Statistics:" ::
  (s.nullCount.map fun n => s!"    Null count: {n}").toList++
  (s.distinctCount.map fun n => s!"    Distinct count: {n}").toList++
  (s.min.map fun v => "    Min value: "++v).toList++
  (s.max.map fun v => "    Max value: "++v).toList

def chunkSizeLines (c : ColumnChunk) : List String :=
  [s!"  Uncompressed size: {c.uncompressedSize} bytes",
   s!"  Compressed size: {c.compressedSize} bytes"]++
  (c.compressionRatio.map fun r => s!"  Compression ratio: {r.twoDecimals}x").toList

def chunkLines (i : Nat) (c : ColumnChunk) : List String :=
  ["",
   s!"Column {i}: {c.path}",
   "  Type: "++c.physicalType,
   "  Compression: "++c.compression,
   s!"  Values: {c.numValues}"]++
  chunkSizeLines c++
  [s!"  Data page offset: {c.dataPageOffset}"]++
  (c.statistics.map statisticsLines).getD []

def firstGroupLines (rowGroups : List RowGroup) : List String :=
  ["","### COLUMN CHUNK DETAILS (First Row Group) ###"]++
  match rowGroups.head? with
  | none => ["No row groups found."]
  | some g => (g.chunks.mapIdx chunkLines).flatten

def chunkSection (rowGroups : List RowGroup) : String := unlines (firstGroupLines rowGroups)

def numericLines (s : NumericStatistics) : List String :=
  ["  Min: "++s.least.shown,"  Max: "++s.greatest.shown]++
  (s.average.map fun a => "  Average: "++a.twoDecimals).toList

def detailLines (d : CellDetails) : List String :=
  [s!"  Unique values: {d.uniqueCount}"]++
  (d.numeric.map numericLines).getD []++
  [s!"  First {d.first.length} values: {Cell.listText d.first}"]++
  (d.last.map fun last => "  Last 5 values: "++Cell.listText last).toList

def summaryLines (s : ColumnSummary) : List String :=
  ["",
   s!"Column {s.index}: '{s.name}'",
   "  Type: "++s.typeName,
   s!"  Length: {s.length}",
   s!"  Null count: {s.nullCount}"]++
  (s.details.map detailLines).getD []

def columnLines (columns : List Column) : List String :=
  ["","### COLUMN DETAILS ###"]++
  (columns.mapIdx fun i c => summaryLines (.ofColumn i c)).flatten

def columnSection (columns : List Column) : String := unlines (columnLines columns)

/-- The lines above the rows; two ends of a table are announced. -/
def previewHeading : PreviewWindow → List String
  | .all _ => ["","### DATA PREVIEW ###"]
  | .split head _ tail =>
    ["","### DATA PREVIEW ###",s!"Showing first {head} and last {tail} rows:",""]

def templateLines (t : Template) : List String := ["","### JUNIT TEST TEMPLATE ###",""]++t.lines

def templateSection (t : Template) : String := unlines (templateLines t)

def closingLines : List String := ["",rule]

def closing : String := unlines closingLines

end Report
end ColumnarReport
