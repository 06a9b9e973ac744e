import ColumnarReport.Text.LetterCase

/-! The Java type that a column's values have in a reader test. -/
namespace ColumnarReport
namespace Template

def targetTypes : List (String × String) :=
  [("int32","Integer"),("int64","Long"),("float","Float"),("double","Double"),
   ("string","String"),("binary","String"),("bool","Boolean")]

def occurs (key : List Char) : List Char → Bool
  | [] => key.isEmpty
  | c :: rest => key.isPrefixOf (c :: rest) || occurs key rest

/-- The target of the first key that occurs in the type name, whatever its letter case. -/
def targetType (typeName : String) : String :=
  let text := (Text.lowercase typeName).toList
  match targetTypes.find? fun t => occurs t.1.toList text with
  | some t => t.2
  | none => "Object"

end Template
end ColumnarReport
