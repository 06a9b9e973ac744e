import ColumnarReport.Text.Alphanumeric
import ColumnarReport.Text.LetterCase

/-! Method names from file stems: the words of the stem, each with a capital first letter. -/
namespace ColumnarReport
namespace Template

/-- Joins words in capitals; `fresh` says that the next letter starts a word. -/
def joinWords (fresh : Bool) : List Char → List Char
  | [] => []
  | c :: rest =>
    if Text.isAlphanumeric c then
      (if fresh then Text.upper c else Text.lower c)++joinWords false rest
    else joinWords true rest

def camelName (stem : String) : String :=
  "test"++String.ofList (joinWords true stem.toList)

end Template
end ColumnarReport
