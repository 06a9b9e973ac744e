import ColumnarReport.Number.Style
import ColumnarReport.Text.Quoted

/-! The decoded cells of a column and their text. -/
namespace ColumnarReport

/-- Values that the report does not treat specially are carried as the text shown for them. -/
inductive Cell
  | null
  | bool (value : Bool)
  | int (value : Int64)
  | uint (value : UInt64)
  | float (value : Double)
  | text (value : String)
  | other (shown : String)
  deriving DecidableEq

namespace Cell

def floatStyle : FloatStyle := ⟨some (-4,16),true,.up⟩

def floatText (x : Double) : String := floatStyle.write x

def isNull : Cell → Bool
  | null => true
  | _ => false

def integer? : Cell → Option Int
  | int v => some v.toInt
  | uint v => some v.toNat
  | _ => none

def number? : Cell → Option Double
  | int v => some (.ofInt v.toInt)
  | uint v => some (.ofInt v.toNat)
  | float v => some v
  | _ => none

def shown : Cell → String
  | null => "null"
  | bool v => if v then "true" else "false"
  | int v => toString v.toInt
  | uint v => toString v.toNat
  | float v => floatText v
  | text v => v
  | other v => v

/-- The text of a cell in a list, where text is quoted. -/
def listed : Cell → String
  | text v => Text.quote v
  | c => c.shown

def listText (cells : List Cell) : String :=
  "["++", ".intercalate (cells.map listed)++"]"

end Cell
end ColumnarReport
