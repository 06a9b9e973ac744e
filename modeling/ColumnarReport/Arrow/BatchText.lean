import ColumnarReport.Arrow.Batch
import ColumnarReport.Arrow.Decode
import ColumnarReport.Arrow.TypeName
import ColumnarReport.Table
import ColumnarReport.Text.Grid

/-! The columns of a batch as the report reads them, and its rows drawn as a grid. -/
namespace ColumnarReport
namespace Arrow

def schemaFields (fs : Fields) : List SchemaField :=
  fs.toList.map fun f => ⟨f.name,f.type.reportName,f.nullable⟩

variable [ZoneDatabase]

/-- The report's columns; the first column without text makes the decoding fail. -/
def Columns.decode {fs : Fields} (c : Columns fs) : Except DecodeError (List Column) :=
  match c with
  | .nil => .ok []
  | .cons (f := f) head tail =>
    match cells head with
    | .error e => .error e
    | .ok values =>
      match tail.decode with
      | .error e => .error e
      | .ok rest => .ok (⟨f.name,f.type.reportName,values⟩ :: rest)

def Columns.texts {fs : Fields} (c : Columns fs) (i : Nat) : List String :=
  match c with
  | .nil => []
  | .cons head tail => (head.text i).shown :: tail.texts i

namespace Batch

def grid {fs : Fields} (b : Batch fs) : Text.Grid :=
  ⟨fs.toList.map Field.name,(List.range b.numRows).map b.columns.texts⟩

/-- The rows of a range, held to the rows that there are. -/
def window {fs : Fields} (b : Batch fs) (offset len : Nat) : Batch fs :=
  let start := min offset b.numRows
  b.slice start (min len (b.numRows-start))

def draw {fs : Fields} (b : Batch fs) : RowRenderer := fun _ offset len =>
  match fs.fault? with
  | some e => .error (.render e.message)
  | none => .ok (b.window offset len).grid.text

end Batch
end Arrow
end ColumnarReport
