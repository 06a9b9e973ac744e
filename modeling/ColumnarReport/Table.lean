import ColumnarReport.Column
import ColumnarReport.Footer
import ColumnarReport.Path

/-! A loaded table and the ways of failing to load or render one. -/
namespace ColumnarReport

structure SchemaField where
  name : String
  typeName : String
  nullable : Bool
  deriving DecidableEq

def SchemaField.line (f : SchemaField) : String :=
  f.name++": "++f.typeName++(if f.nullable then "" else " not null")

inductive SourceError
  | notFound (path : Path)
  | io (text : String)
  | decode (text : String)
  | render (text : String)
  deriving DecidableEq

def SourceError.message : SourceError → String
  | .notFound p => "File not found: "++p.display
  | .io text => "IO error: "++text
  | .decode text => "Decode error: "++text
  | .render text => "Render error: "++text

/-- Draws rows as text, given the number of earlier calls, the first row and the row count. -/
abbrev RowRenderer := Nat → Nat → Nat → Except SourceError String

structure Table where
  fields : List SchemaField
  parquetSchema : String
  footer : Footer
  columns : List Column
  numRows : Nat
  render : RowRenderer

abbrev Source := Path → Except SourceError Table

end ColumnarReport
