import ColumnarReport.Inspection

/-! Inspections that share one store of tables. -/
namespace ColumnarReport

/-- What a store holds at a path: a table, or the way in which loading it fails. -/
abbrev StoredTable := Except SourceError Table

structure Session where
  files : List (Path × StoredTable)
  loads : Nat

inductive SessionStep
  | put (path : Path) (table : StoredTable)
  | remove (path : Path)
  | inspect (path : Path) (options : InspectOptions) (sink : Sink)

inductive StepResult
  | put
  | removed
  | absent
  | inspected (sink : Sink) (result : Except InspectError Unit)

namespace Session

def empty : Session := ⟨[],0⟩

def find? (s : Session) (path : Path) : Option StoredTable :=
  (s.files.find? (·.1.same path)).map (·.2)

/-- A path that nothing is stored under is not found. -/
def source (s : Session) : Source := fun path => (s.find? path).getD (.error (.notFound path))

def put (s : Session) (path : Path) (table : StoredTable) : Session :=
  { s with files := (path,table) :: s.files.filter (!·.1.same path) }

def remove (s : Session) (path : Path) : Session :=
  { s with files := s.files.filter (!·.1.same path) }

def step (s : Session) : SessionStep → Session × StepResult
  | .put path table => (s.put path table,.put)
  | .remove path => (s.remove path,if (s.find? path).isSome then .removed else .absent)
  | .inspect path options sink =>
    let run := ColumnarReport.inspect s.source path options sink
    ({ s with loads := s.loads+run.loads },.inspected run.sink run.result)

def run (s : Session) : List SessionStep → List (Session × StepResult)
  | [] => []
  | x :: rest =>
    let r := s.step x
    r :: run r.1 rest

end Session
end ColumnarReport
