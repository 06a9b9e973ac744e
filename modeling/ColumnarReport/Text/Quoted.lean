import ColumnarReport.Text.Visible

/-! Quoted text: one line between double quotes that shows every character. -/
namespace ColumnarReport
namespace Text

def escape (c : Char) : List Char :=
  if c = '"' then ['\\','"']
  else if c = '\\' then ['\\','\\']
  else if c = '\n' then ['\\','n']
  else if c = '\r' then ['\\','r']
  else if c = '\t' then ['\\','t']
  else if c = '\x00' then ['\\','0']
  else if isVisible c then [c]
  else ['\\','u','\x7b']++Nat.toDigits 16 c.toNat++['\x7d']

def quote (s : String) : String :=
  String.ofList ('"' :: s.toList.flatMap escape++['"'])

end Text
end ColumnarReport
