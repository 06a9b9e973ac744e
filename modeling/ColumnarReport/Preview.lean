import ColumnarReport.Instances

/-! Which rows of a table the preview shows. -/
namespace ColumnarReport

open scoped Computing

inductive PreviewWindow
  | all (rows : Nat)
  | split (head tailOffset tail : Nat)
  deriving DecidableEq, Repr

inductive PreviewError
  | zeroLimit
  deriving DecidableEq

def PreviewError.message : PreviewError → String
  | .zeroLimit => "Preview row limit must be positive"

namespace PreviewWindow

def defaultLimit : Nat := 20

/-- A table within the limit is shown whole, a longer one by half the limit from each end. -/
def select (totalRows limit : Nat) : Except PreviewError PreviewWindow :=
  if limit = 0 then .error .zeroLimit
  else if totalRows ≤ limit then .ok (.all totalRows)
  else .ok (.split (limit/2) (totalRows-limit/2) (limit/2))

def ranges : PreviewWindow → List (Nat × Nat)
  | all rows => [(0,rows)]
  | split head tailOffset tail => [(0,head),(tailOffset,tail)]

def shownRows (w : PreviewWindow) : Nat := (w.ranges.map (·.2)).sum

end PreviewWindow
end ColumnarReport
