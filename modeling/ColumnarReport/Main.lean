import ColumnarReport.FileTree
import ColumnarReport.Program

/-! The program on the machine it runs on: opens the file that is named and prints. -/
namespace ColumnarReport

def openedBy : IO.Error → Except OpenError FileNode
  | .noFileOrDirectory _ _ _ => .error .notFound
  | .invalidArgument _ _ _ => .error .embeddedNul
  | .inappropriateType _ _ details =>
    if details.toLower = "is a directory" then .ok (.directory []) else .error .notDirectory
  | e => .error (.other (toString e))

def openFile (path : String) : IO (Except OpenError FileNode) := do
  match ← (IO.FS.readBinFile path).toBaseIO with
  | .ok bytes => return .ok (.file (.bytes bytes.toList))
  | .error e => return openedBy e

def sourceFor (words : List String) : IO Source := do
  match CommandLine.Command.ofWords words with
  | .ok (.inspect path _ _) =>
    let opened ← openFile path
    return fun p => loadOpened defaultBatchSize p opened
  | _ => return fun p => .error (.notFound p)

end ColumnarReport

def main (words : List String) : IO UInt32 := do
  let outcome := ColumnarReport.Program.run (← ColumnarReport.sourceFor words) words
  (← IO.getStdout).write (ByteArray.mk outcome.out.toArray)
  (← IO.getStderr).write (ByteArray.mk outcome.err.toArray)
  return UInt32.ofNat outcome.code
