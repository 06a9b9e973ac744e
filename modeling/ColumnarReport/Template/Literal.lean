import ColumnarReport.Cell

/-! Java source text for cells and strings. -/
namespace ColumnarReport
namespace Template

def escapeJava (c : Char) : List Char :=
  if c = '"' then ['\\','"']
  else if c = '\\' then ['\\','\\']
  else if c = '\n' then ['\\','n']
  else if c = '\r' then ['\\','r']
  else if c = '\t' then ['\\','t']
  else [c]

def javaString (s : String) : String :=
  String.ofList ('"' :: s.toList.flatMap escapeJava++['"'])

/-- An integer beyond 32 bits takes the suffix of a long. -/
def javaInteger (i : Int) : String :=
  if Int32.minValue.toInt ≤ i ∧ i ≤ Int32.maxValue.toInt then toString i else toString i++"L"

def javaLiteral : Cell → String
  | .null => "null"
  | .bool v => (Cell.bool v).shown
  | .int v => javaInteger v.toInt
  | .uint v => javaInteger v.toNat
  | .float v => Cell.floatText v
  | .text v => javaString v
  | .other v => javaString v

end Template
end ColumnarReport
