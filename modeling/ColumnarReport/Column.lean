import ColumnarReport.Cell

/-! The cells of one column and what the report says about them. -/
namespace ColumnarReport

open scoped Computing

structure Column where
  name : String
  typeName : String
  cells : List Cell
  deriving DecidableEq

namespace Column

def nullCount (c : Column) : Nat := c.cells.countP Cell.isNull

def numericTypes : List String := ["int32","int64","float","double"]

def isNumeric (c : Column) : Bool := numericTypes.contains c.typeName

end Column

/-- Two integers compare exactly; where one is a float, both compare as floats. -/
def Cell.compareNumeric (a b : Cell) : Ordering :=
  match a.integer?,b.integer? with
  | some x,some y => compare x y
  | _,_ => (a.number?.getD .nan).totalCompare (b.number?.getD .nan)

structure NumericStatistics where
  least : Cell
  greatest : Cell
  /-- Absent for a single number. -/
  average : Option Double
  deriving DecidableEq

namespace NumericStatistics

/-- The earliest cell that no later one is below. -/
def leastOf (first : Cell) (rest : List Cell) : Cell :=
  rest.foldl (fun a b => if a.compareNumeric b = .gt then b else a) first

/-- The latest cell that no earlier one is above. -/
def greatestOf (first : Cell) (rest : List Cell) : Cell :=
  rest.foldl (fun a b => if a.compareNumeric b = .gt then a else b) first

/-- Integers are summed exactly; other numbers are summed in order, from negative zero. -/
def sumOf (numbers : List Cell) : Double :=
  let integers := numbers.filterMap Cell.integer?
  if integers.length = numbers.length then .ofInt integers.sum
  else (numbers.filterMap Cell.number?).foldl Binary.add (.zero true)

def averageOf (numbers : List Cell) : Option Double :=
  if 1 < numbers.length then some ((sumOf numbers).div (.ofInt numbers.length)) else none

def ofCells (cells : List Cell) : Option NumericStatistics :=
  match cells.filter (·.number?.isSome) with
  | [] => none
  | first :: rest =>
    some ⟨leastOf first rest,greatestOf first rest,averageOf (first :: rest)⟩

end NumericStatistics

structure CellDetails where
  /-- The number of different texts among the cells that are not null. -/
  uniqueCount : Nat
  numeric : Option NumericStatistics
  first : List Cell
  last : Option (List Cell)
  deriving DecidableEq

structure ColumnSummary where
  index : Nat
  name : String
  typeName : String
  length : Nat
  nullCount : Nat
  details : Option CellDetails
  deriving DecidableEq

namespace ColumnSummary

def sampleSize : Nat := 5
/-- Longer columns show their last cells too. -/
def tailThreshold : Nat := 10

def uniqueCount (cells : List Cell) : Nat :=
  ((cells.filter (!·.isNull)).map Cell.shown).eraseDups.length

def ofColumn (index : Nat) (c : Column) : ColumnSummary where
  index := index
  name := c.name
  typeName := c.typeName
  length := c.cells.length
  nullCount := c.nullCount
  details :=
    if c.cells.isEmpty then none
    else some {
      uniqueCount := uniqueCount c.cells
      numeric := if c.isNumeric then NumericStatistics.ofCells c.cells else none
      first := c.cells.take sampleSize
      last :=
        if tailThreshold < c.cells.length then some (c.cells.drop (c.cells.length-sampleSize))
        else none }

end ColumnSummary
end ColumnarReport
