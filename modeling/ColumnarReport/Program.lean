import ColumnarReport.CommandLine.Command
import ColumnarReport.Inspection

/-! One run of the program: what its command line makes it do, what it prints, its exit code, and
how often it asks for a table. -/
namespace ColumnarReport

structure Outcome where
  code : Nat
  out : List UInt8
  err : List UInt8
  loads : Nat
  deriving DecidableEq

def InspectError.causes : InspectError → List String
  | .source (.io text) => [text]
  | .preview e => [e.message]
  | .template e => [e.message]
  | .write text => [text]
  | _ => []

namespace Program

def indentLines (first rest text : String) : String :=
  first++("\n"++rest).intercalate (text.splitOn "\n")

def numbered (i : Nat) (text : String) : String :=
  let digits := toString i
  indentLines (CommandLine.spaces (5-digits.length)++digits++": ") (CommandLine.spaces 7) text

/-- The causes of a failure, each on a line of its own, numbered where there are several. -/
def trace (path : Path) (e : InspectError) : String :=
  let lines := match e.causes with
    | [] => [indentLines (CommandLine.spaces 4) (CommandLine.spaces 4) e.message]
    | causes => (e.message :: causes).mapIdx numbered
  "failed to inspect "++path.display++"\n\nCaused by:\n"++"\n".intercalate lines++"\n"

def failure (path : Path) (e : InspectError) : String × String :=
  match e with
  | .notFound _ => ("Error: File not found: "++path.display++"\n","")
  | e => ("Error inspecting file: "++e.message++"\n",trace path e)

def inspect (source : Source) (path : Path) (o : InspectOptions) : Outcome :=
  let run := ColumnarReport.inspect source path o .unlimited
  match run.result with
  | .ok () => ⟨0,run.sink.taken,[],run.loads⟩
  | .error e =>
    let (out,err) := failure path e
    ⟨1,run.sink.taken++Utf8.encode out,Utf8.encode err,run.loads⟩

/-- A command line without a file is answered with the full help. -/
def run (source : Source) (words : List String) : Outcome :=
  match CommandLine.Command.ofWords words with
  | .error e => ⟨2,[],Utf8.encode e.message,0⟩
  | .ok .help => ⟨0,Utf8.encode CommandLine.briefHelp,[],0⟩
  | .ok .version => ⟨0,Utf8.encode CommandLine.versionText,[],0⟩
  | .ok .nothing => ⟨1,Utf8.encode CommandLine.fullHelp,[],0⟩
  | .ok (.inspect path limit chunks) => inspect source (.ofString path) ⟨limit,chunks⟩

end Program
end ColumnarReport
