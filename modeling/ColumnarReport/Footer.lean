import ColumnarReport.Number.Binary

/-! What the footer of a file says of its row groups and column chunks, and their sizes. Counts and
sizes are words of 64 bits with a sign, and so are their sums and differences, which wrap around. -/
namespace ColumnarReport

open scoped Computing

/-- The word with the low bits of an integer. -/
instance instCoeIntInt64 : Coe Int Int64 := ⟨Int64.ofInt⟩

theorem sum_eq_ofInt (words : List Int64) : words.sum = .ofInt (words.map (·.toInt)).sum := by
  induction words with
  | nil => rfl
  | cons w words ih =>
    rw [List.sum_cons,List.map_cons,List.sum_cons,Int64.ofInt_add,Int64.ofInt_toInt,ih]

structure ChunkStatistics where
  nullCount : Option Nat
  distinctCount : Option Nat
  min : Option String
  max : Option String
  deriving DecidableEq

structure ColumnChunk where
  path : String
  physicalType : String
  compression : String
  numValues : Int64
  compressedSize : Int64
  uncompressedSize : Int64
  dataPageOffset : Int64
  statistics : Option ChunkStatistics
  deriving DecidableEq

structure RowGroup where
  numRows : Int64
  numColumns : Nat
  totalByteSize : Int64
  chunks : List ColumnChunk
  deriving DecidableEq

structure Footer where
  createdBy : Option String
  formatVersion : Int
  /-- The size of the whole file. -/
  fileSize : Nat
  serializedSize : Nat
  keyValue : List (String × Option String)
  rowGroups : List RowGroup
  deriving DecidableEq

def compressionRatio (uncompressed compressed : Int64) : Option Double :=
  if 0 < uncompressed ∧ 0 < compressed then
    some ((Binary.ofInt uncompressed.toInt).div (.ofInt compressed.toInt))
  else none

namespace ColumnChunk

def compressionRatio (c : ColumnChunk) : Option Double :=
  ColumnarReport.compressionRatio c.uncompressedSize c.compressedSize

end ColumnChunk

namespace RowGroup

def compressedSize (g : RowGroup) : Int64 := (g.chunks.map (·.compressedSize)).sum
def uncompressedSize (g : RowGroup) : Int64 := (g.chunks.map (·.uncompressedSize)).sum

def compressionRatio (g : RowGroup) : Option Double :=
  ColumnarReport.compressionRatio g.uncompressedSize g.compressedSize

end RowGroup

namespace Footer

def numRows (m : Footer) : Int64 := (m.rowGroups.map (·.numRows)).sum
def compressedSize (m : Footer) : Int64 := (m.rowGroups.map (·.compressedSize)).sum
def uncompressedSize (m : Footer) : Int64 := (m.rowGroups.map (·.uncompressedSize)).sum

def bytesPerMegabyte : Int := 1024*1024

def fileMegabytes (m : Footer) : Double :=
  (Binary.ofInt m.fileSize).div (.ofInt bytesPerMegabyte)

def compressionRatio (m : Footer) : Option Double :=
  ColumnarReport.compressionRatio m.uncompressedSize m.compressedSize

/-- Negative where compression made the chunks larger. -/
def bytesSaved (m : Footer) : Int64 := m.uncompressedSize-m.compressedSize

/-- File bytes for each row; zero without rows. -/
def averageRowSize (m : Footer) : Double :=
  if 0 < m.numRows then (Binary.ofInt m.fileSize).div (.ofInt m.numRows.toInt) else .zero false

end Footer
end ColumnarReport
