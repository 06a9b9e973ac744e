import ColumnarReport.Preview

/-! The options and operands of the command line, and the texts that explain them. -/
namespace ColumnarReport
namespace CommandLine

inductive Flag
  | chunks
  | help
  | version
  deriving DecidableEq, Repr

namespace Flag

def all : List Flag := [chunks,help,version]

def name : Flag → String
  | chunks => "chunks"
  | help => "help"
  | version => "version"

def long (f : Flag) : String := "--"++f.name

def short? : Flag → Option Char
  | chunks => none
  | help => some 'h'
  | version => some 'V'

def ofReport : Flag → Bool
  | chunks => true
  | help | version => false

def description : Flag → String
  | chunks => "Also print column chunk details of the first row group"
  | help => "Print help"
  | version => "Print version"

def label (f : Flag) : String :=
  match f.short? with
  | some c => String.ofList ['-',c]++", "++f.long
  | none => "    "++f.long

end Flag

inductive Operand
  | path
  | limit
  deriving DecidableEq, Repr

namespace Operand

def all : List Operand := [path,limit]

def name : Operand → String
  | path => "PARQUET_FILE"
  | limit => "MAX_ROWS"

def bracketed (o : Operand) : String := "["++o.name++"]"
def required (o : Operand) : String := "<"++o.name++">"

def description : Operand → String
  | path => "Path to the Parquet file"
  | limit => "Maximum number of rows to show in the data preview"

def fallback? : Operand → Option String
  | path => none
  | limit => some s!"[default: {PreviewWindow.defaultLimit}]"

end Operand

def programName : String := "parquet-inspect"
def versionText : String := programName++" 0.1.0\n"

/-- What the usage line tells of a command line. -/
inductive Shown
  | nothing
  | words (flags : List Flag) (operands : List Operand)
  /-- The words of a report are alternatives; a flag that asks for something else stands before
  them. -/
  | choice (flag : Flag)
  deriving DecidableEq

def choiceText : String :=
  "<"++"|".intercalate (Operand.all.map Operand.name++(Flag.all.filter Flag.ofReport).map Flag.long)++">"

def Shown.parts : Shown → List String
  | nothing => "[OPTIONS]" :: Operand.all.map Operand.bracketed
  | words flags operands =>
    flags.map Flag.long++
    Operand.all.map fun o => if operands.contains o then o.required else o.bracketed
  | choice flag => (if flag.ofReport then [] else [flag.long])++[choiceText]

def usage (s : Shown) : String := "Usage: "++" ".intercalate (programName :: s.parts)

structure Entry where
  label : String
  description : String
  fallback? : Option String

def operandEntries : List Entry :=
  Operand.all.map fun o => ⟨o.bracketed,o.description,o.fallback?⟩

def flagEntries : List Entry := Flag.all.map fun f => ⟨f.label,f.description,none⟩

def spaces (n : Nat) : String := String.ofList (List.replicate n ' ')

def briefEntries (entries : List Entry) : String :=
  let width := (entries.map (·.label.length)).foldl max 0
  String.join (entries.map fun e =>
    "  "++e.label++spaces (width-e.label.length)++"  "++e.description++
    (match e.fallback? with
    | some text => " "++text
    | none => "")++"\n")

def fullEntries (entries : List Entry) : String :=
  "\n".intercalate (entries.map fun e =>
    "  "++e.label++"\n"++spaces 10++e.description++"\n"++
    match e.fallback? with
    | some text => spaces 10++"\n"++spaces 10++text++"\n"
    | none => "")

def helpText (layout : List Entry → String) : String :=
  "Quick Parquet file inspector\n\n"++usage .nothing++"\n\nArguments:\n"++layout operandEntries++
  "\nOptions:\n"++layout flagEntries

def briefHelp : String := helpText briefEntries
def fullHelp : String := helpText fullEntries

end CommandLine
end ColumnarReport
