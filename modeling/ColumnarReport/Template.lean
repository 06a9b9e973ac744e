import ColumnarReport.Column
import ColumnarReport.Path
import ColumnarReport.Template.Literal
import ColumnarReport.Template.MethodName
import ColumnarReport.Template.TargetType
import ColumnarReport.Text.Lines

/-! The JUnit test that asserts a file's row count, its columns and its first row. -/
namespace ColumnarReport

structure Template where
  methodName : String
  fileName : String
  totalRows : Nat
  columns : List (String × String)
  firstRow : Option (List Cell)
  deriving DecidableEq

inductive TemplateError
  | noFileName (path : Path)
  deriving DecidableEq

def TemplateError.message : TemplateError → String
  | .noFileName p => "Path has no file name: "++p.display

namespace Template

def ofName (name : String) (totalRows : Nat) (columns : List Column) : Template where
  methodName := camelName (fileStem name)
  fileName := name
  totalRows := totalRows
  columns := columns.map fun c => (c.name,c.typeName)
  firstRow :=
    if 0 < totalRows then some (columns.map fun c => c.cells.head?.getD .null) else none

def ofTable (path : Path) (totalRows : Nat) (columns : List Column) :
    Except TemplateError Template :=
  match path.fileName.bind Utf8.decode? with
  | none => .error (.noFileName path)
  | some name => .ok (ofName name totalRows columns)

def columnLine (i : Nat) (c : String × String) : String :=
  s!"        assertEquals({javaString c.1}, reader.getSchema().getColumn({i}).getPathString()); // {targetType c.2}"

def valueLine (i : Nat) (value : Cell) : String :=
  s!"        assertEquals({javaLiteral value}, firstRow.getColumnValue({i}));"

def firstRowLines (row : List Cell) : List String :=
  ["",
   "        // Verify first row values",
   "        assertTrue(iterator.hasNext());",
   "        RowColumnGroup firstRow = iterator.next();"]++
  row.mapIdx valueLine

def headLines (t : Template) : List String :=
  ["@Test",
   "void "++t.methodName++"() throws IOException \x7b",
   "    String filePath = TEST_DATA_DIR + "++javaString t.fileName++";",
   "",
   "    try (ParquetFileReader reader = new ParquetFileReader(filePath)) \x7b",
   "        RowColumnGroupIterator iterator = reader.rowIterator();",
   "",
   "        // Expected row count",
   s!"        assertEquals({t.totalRows}L, reader.getTotalRowCount());",
   "",
   "        // Expected columns",
   s!"        assertEquals({t.columns.length}, reader.getSchema().getNumColumns());"]

def tailLines (t : Template) : List String :=
  (t.firstRow.map firstRowLines).getD []++["    \x7d","\x7d"]

def lines (t : Template) : List String :=
  headLines t++(t.columns.mapIdx columnLine++tailLines t)

def text (t : Template) : String := Text.unlines t.lines

end Template
end ColumnarReport
