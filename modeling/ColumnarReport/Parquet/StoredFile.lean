import ColumnarReport.Parquet.Implied
import ColumnarReport.Parquet.KeptTypes
import ColumnarReport.Parquet.Leaves
import ColumnarReport.Parquet.ReadFault
import ColumnarReport.Parquet.Reading
import ColumnarReport.Parquet.StoredSlots

/-! A file given by what it stores: the rows of its arrays, how they divide into row groups, and
what its footer records. Loading it gives the table of the report. -/
namespace ColumnarReport

open scoped Computing
namespace Parquet

open Arrow (Fields Batch BatchJoin)

structure ChunkSizes where
  compressed : Int64
  uncompressed : Int64
  dataPageOffset : Int64
  deriving DecidableEq

/-- The sizes that the encoding of a file came to, by row group and by leaf. -/
structure Layout where
  fileSize : Nat
  footerSize : Nat
  groupSize : Nat → Int64
  chunk : Nat → Nat → ChunkSizes

def evenGroups (size rows : Nat) : List Nat := (Batch.ranges size 0 rows).map (·.2)

theorem sum_evenGroups (size rows : Nat) : (evenGroups size rows).sum = rows :=
  Batch.sum_ranges size 0 rows

/-- The first row and the row count of consecutive row groups, from their row counts. -/
def groupRanges (start : Nat) : List Nat → List (Nat × Nat)
  | [] => []
  | count :: rest => (start,count) :: groupRanges (start+count) rest

structure StoredFile where
  fields : Fields
  rows : Batch fields
  groupRows : List Nat
  groupRows_sum : groupRows.sum = rows.numRows
  codec : Codec
  version : Int
  createdBy : Option String
  keyValue : List (String × Option String)
  hasStatistics : Bool
  /-- Whether the file keeps the types of the arrays beside its own schema. -/
  keepsTypes : Bool
  layout : Layout

namespace StoredFile

def chunk (f : StoredFile) (sizes : ChunkSizes) (l : Leaf) : Chunk where
  path := l.path
  physical := l.physical
  codec := f.codec.recorded
  numValues := (l.entries.length : Int)
  compressedSize := sizes.compressed
  uncompressedSize := sizes.uncompressed
  dataPageOffset := sizes.dataPageOffset
  statistics := if f.hasStatistics then some l.statistics else none

def storedRows (f : StoredFile) : Batch (storedFields f.fields) := storedBatch f.rows

def leaves (f : StoredFile) (range : Nat × Nat) : List Leaf :=
  fileLeaves f.storedRows.columns ((List.range' range.1 range.2).map some)

def group (f : StoredFile) (i : Nat) (range : Nat × Nat) : ChunkGroup where
  numRows := (range.2 : Int)
  totalByteSize := f.layout.groupSize i
  chunks := (f.leaves range).mapIdx fun j l => f.chunk (f.layout.chunk i j) l

def metadata (f : StoredFile) : Metadata where
  version := f.version
  createdBy := f.createdBy
  keyValue := some f.keyValue
  groups := (groupRanges 0 f.groupRows).mapIdx f.group

def readRows (f : StoredFile) : (fields : Fields) × Batch fields :=
  if f.keepsTypes then ⟨storedFields f.fields,f.storedRows⟩
  else ⟨impliedFields (storedFields f.fields),impliedBatch f.storedRows⟩

/-- Byte strings of a fixed size have dictionaries from the second version on. -/
def hasDictionary (f : StoredFile) (l : Leaf) : Bool :=
  match l.physical with
  | .fixedBytes _ => decide (2 ≤ f.version)
  | _ => true

/-- Whether a row group that begins before a row has a dictionary with more values than keys. -/
def exceedsKeysBefore (f : StoredFile) (row : Nat) : Bool :=
  (groupRanges 0 f.groupRows).any fun range =>
    decide (range.1 < row) && (f.leaves range).any fun l => f.hasDictionary l && l.exceedsKeys

/-- Why rows are not read with the types that the file keeps. For each batch the dictionaries of
its row groups are read first, and then its values take on their types. -/
def readFault? (f : StoredFile) (batchSize : Nat) : Option ReadFault :=
  if f.rows.numRows = 0 || !f.keepsTypes then none
  else if f.exceedsKeysBefore (max 1 batchSize) then some .tooManyValues
  else
    (fieldsReadFault? f.fields).or
      (if f.exceedsKeysBefore f.rows.numRows then some .tooManyValues else none)

def openFault? (f : StoredFile) : Option KeptTypesError :=
  if f.keepsTypes then none else (keptTypes? f.keyValue).bind keptTypesFault?

def reading (f : StoredFile) (batchSize : Nat) : Reading where
  fields := f.readRows.1
  batches := f.readRows.2.split batchSize
  schemaText := schemaText f.fields
  metadata := f.metadata
  fileSize := f.layout.fileSize
  footerSize := f.layout.footerSize

def load [ZoneDatabase] [BatchJoin] (f : StoredFile) (batchSize : Nat) : Except SourceError Table :=
  match f.openFault?,f.readFault? batchSize with
  | some e,_ => .error (.decode e.message)
  | none,some e => .error (.decode e.message)
  | none,none => (f.reading batchSize).table

end StoredFile
end Parquet
end ColumnarReport
