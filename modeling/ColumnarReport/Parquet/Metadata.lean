import ColumnarReport.Footer
import ColumnarReport.Parquet.Physical

/-! The metadata that a file's footer holds, with bounds as stored values, and what the report
says of it. -/
namespace ColumnarReport
namespace Parquet

inductive Codec
  | uncompressed
  | snappy
  | gzip (level : Nat)
  | lzo
  | brotli (level : Nat)
  | lz4
  | zstd (level : Nat)
  | lz4Raw
  deriving DecidableEq, Repr

namespace Codec

def text : Codec → String
  | uncompressed => "UNCOMPRESSED"
  | snappy => "SNAPPY"
  | gzip level => s!"GZIP(GzipLevel({level}))"
  | lzo => "LZO"
  | brotli level => s!"BROTLI(BrotliLevel({level}))"
  | lz4 => "LZ4"
  | zstd level => s!"ZSTD(ZstdLevel({level}))"
  | lz4Raw => "LZ4_RAW"

/-- A file does not record the level; it is read as the default one. -/
def recorded : Codec → Codec
  | gzip _ => gzip 6
  | brotli _ => brotli 1
  | zstd _ => zstd 1
  | codec => codec

end Codec

structure Statistics (t : PhysicalType) where
  nullCount : Option Nat
  distinctCount : Option Nat
  min : Option t.Value
  max : Option t.Value

namespace Statistics

def view {t : PhysicalType} (s : Statistics t) : ChunkStatistics :=
  ⟨s.nullCount,s.distinctCount,s.min.map (valueText t),s.max.map (valueText t)⟩

/-- The earliest of the entries with the least key, or with the greatest one. -/
def extreme {α : Type} (beyond : Ordering) : List (List Int × α) → Option α
  | [] => none
  | e :: rest =>
    some (rest.foldl (fun a b => if compare b.1 a.1 = beyond then b else a) e).2

/-- The statistics of a chunk, from its values and nulls. -/
def ofEntries (t : PhysicalType) (order : ValueOrder) (entries : List (Option t.Value)) :
    Statistics t :=
  let keyed := (entries.filterMap id).filterMap fun v => (valueKey t order v).map (·,v)
  { nullCount := some (entries.countP Option.isNone)
    distinctCount := none
    min := (extreme .lt keyed).map (widenZero t order true)
    max := (extreme .gt keyed).map (widenZero t order false) }

end Statistics

structure Chunk where
  path : List String
  physical : PhysicalType
  codec : Codec
  numValues : Int64
  compressedSize : Int64
  uncompressedSize : Int64
  dataPageOffset : Int64
  statistics : Option (Statistics physical)

def Chunk.view (c : Chunk) : ColumnChunk where
  path := ".".intercalate c.path
  physicalType := c.physical.text
  compression := c.codec.text
  numValues := c.numValues
  compressedSize := c.compressedSize
  uncompressedSize := c.uncompressedSize
  dataPageOffset := c.dataPageOffset
  statistics := c.statistics.map Statistics.view

structure ChunkGroup where
  numRows : Int64
  totalByteSize : Int64
  chunks : List Chunk

def ChunkGroup.view (g : ChunkGroup) : RowGroup :=
  ⟨g.numRows,g.chunks.length,g.totalByteSize,g.chunks.map Chunk.view⟩

structure Metadata where
  version : Int
  createdBy : Option String
  keyValue : Option (List (String × Option String))
  groups : List ChunkGroup

/-- What the report says of a file of this size, whose serialized footer has this length. -/
def Metadata.footer (m : Metadata) (fileSize serializedSize : Nat) : Footer where
  createdBy := m.createdBy
  formatVersion := m.version
  fileSize := fileSize
  serializedSize := serializedSize
  keyValue := m.keyValue.getD []
  rowGroups := m.groups.map ChunkGroup.view

end Parquet
end ColumnarReport
