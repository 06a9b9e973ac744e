import ColumnarReport.Arrow.BatchText
import ColumnarReport.Parquet.Metadata

/-! What a reader hands back of a file, and the table that comes of it. -/
namespace ColumnarReport
namespace Parquet

open Arrow (Fields Batch BatchJoin)

structure Reading where
  fields : Fields
  batches : List (Batch fields)
  schemaText : String
  metadata : Metadata
  fileSize : Nat
  footerSize : Nat

namespace Reading

variable [ZoneDatabase] [BatchJoin]

def rows (r : Reading) : Except String (Batch r.fields) := BatchJoin.join r.batches

/-- The table of joined rows. A column without text leaves none. -/
def tableOf (r : Reading) (rows : Batch r.fields) : Except SourceError Table :=
  match rows.columns.decode with
  | .error e => .error (.decode e.message)
  | .ok columns => .ok {
      fields := Arrow.schemaFields r.fields
      parquetSchema := r.schemaText
      footer := r.metadata.footer r.fileSize r.footerSize
      columns := columns
      numRows := rows.numRows
      render := rows.draw }

def table (r : Reading) : Except SourceError Table :=
  match r.rows with
  | .error message => .error (.decode message)
  | .ok rows => r.tableOf rows

end Reading
end Parquet
end ColumnarReport
