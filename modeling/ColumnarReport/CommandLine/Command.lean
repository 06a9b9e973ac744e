import ColumnarReport.CommandLine.Usage
import ColumnarReport.Text.Similarity
import ColumnarReport.Text.Terminal

/-! Commands, and how the words of a command line are read as one. -/
namespace ColumnarReport
namespace CommandLine

inductive LimitError
  | empty
  | invalidDigit
  | tooLarge
  | zero
  deriving DecidableEq, Repr

def LimitError.message : LimitError → String
  | .empty => "cannot parse integer from empty string"
  | .invalidDigit => "invalid digit found in string"
  | .tooLarge => "number too large to fit in target type"
  | .zero => "number would be zero for non-zero type"

def limitBound : Nat := UInt64.size

def readDigits (value : Nat) : List Char → Except LimitError Nat
  | [] => .ok value
  | c :: rest =>
    if c.isDigit then
      let next := value*10+(c.toNat-48)
      if limitBound ≤ next then .error .tooLarge else readDigits next rest
    else .error .invalidDigit

def unsigned : List Char → List Char
  | '+' :: c :: rest => c :: rest
  | cs => cs

/-- A positive number in decimal digits; a plus sign may stand before it. -/
def readLimit (word : String) : Except LimitError Nat :=
  let digits := unsigned word.toList
  if digits = [] then .error .empty
  else
    match readDigits 0 digits with
    | .error e => .error e
    | .ok n => if n = 0 then .error .zero else .ok n

inductive Command
  | help
  | version
  | nothing
  | inspect (path : String) (limit : Nat) (chunks : Bool)
  deriving DecidableEq, Repr

inductive UsageError
  /-- A word that is no operand or option; the caller may have meant it as an operand, or have
  meant a similar option. -/
  | unexpected (word : String) (asOperand : Bool) (similar : Option Flag) (shown : Shown)
  | unexpectedValue (flag : Flag) (value : String) (shown : Shown)
  | repeated (flag : Flag)
  | emptyPath
  | invalidLimit (word : String) (cause : LimitError)
  deriving DecidableEq

namespace UsageError

def quoted (word : String) : String := "'"++Text.terminalText word++"'"

def summary : UsageError → String
  | unexpected word _ _ _ => "unexpected argument "++quoted word++" found"
  | unexpectedValue flag value _ =>
    "unexpected value "++quoted value++s!" for '{flag.long}' found; no more were expected"
  | repeated flag => s!"the argument '{flag.long}' cannot be used multiple times"
  | emptyPath => s!"a value is required for '{Operand.path.bracketed}' but none was supplied"
  | invalidLimit word cause =>
    "invalid value "++quoted word++s!" for '{Operand.limit.bracketed}': {cause.message}"

def tips : UsageError → List String
  | unexpected word asOperand similar _ =>
    (similar.map fun f => s!"a similar argument exists: '{f.long}'").toList++
    (if asOperand then ["to pass "++quoted word++" as a value, use "++quoted ("-- "++word)] else [])
  | _ => []

def usage? : UsageError → Option String
  | unexpected _ _ _ shown => some (usage shown)
  | unexpectedValue _ _ shown => some (usage shown)
  | repeated _ => some (usage .nothing)
  | _ => none

def message (e : UsageError) : String :=
  "error: "++e.summary++"\n\n"++
  (if e.tips.isEmpty then "" else String.join (e.tips.map fun tip => "  tip: "++tip++"\n")++"\n")++
  (match e.usage? with
  | some text => text++"\n\n"
  | none => "")++
  "For more information, try '--help'.\n"

end UsageError

/-- The words read so far. The last operand is checked when the next word is read. -/
structure Reading where
  checked : List String
  pending : Option String
  chunks : Bool
  deriving DecidableEq

namespace Reading

def start : Reading := ⟨[],none,false⟩

def words (r : Reading) : List String := r.checked++r.pending.toList

/-- The first operand is a path, which is not empty, and the second one a limit. -/
def checkOperand (place : Nat) (word : String) : Except UsageError Unit :=
  if place = 0 then if word = "" then .error .emptyPath else .ok ()
  else
    match readLimit word with
    | .error e => .error (.invalidLimit word e)
    | .ok _ => .ok ()

def settle (r : Reading) : Except UsageError Reading :=
  match r.pending with
  | none => .ok r
  | some word =>
    match checkOperand r.checked.length word with
    | .error e => .error e
    | .ok () => .ok { r with checked := r.checked++[word], pending := none }

def shown (r : Reading) (flag : Option Flag) : Shown :=
  let flags := ((if r.chunks then [Flag.chunks] else [])++flag.toList).eraseDups
  let operands := Operand.all.take r.words.length
  if flags.isEmpty && operands.isEmpty then .nothing else .words flags operands

def shownWithValue (r : Reading) (flag : Flag) : Shown :=
  if r.chunks || !r.checked.isEmpty then .choice flag else .words [flag] []

def addOperand (r : Reading) (word : String) : Except UsageError Reading :=
  if r.words.length < Operand.all.length then
    match r.settle with
    | .error e => .error e
    | .ok r => .ok { r with pending := some word }
  else .error (.unexpected word false none .nothing)

def finish (r : Reading) : Except UsageError Command :=
  match r.settle with
  | .error e => .error e
  | .ok r =>
    match r.checked with
    | [] => .ok .nothing
    | [path] => .ok (.inspect path PreviewWindow.defaultLimit r.chunks)
    | path :: limit :: _ =>
      match readLimit limit with
      | .error e => .error (.invalidLimit limit e)
      | .ok n => .ok (.inspect path n r.chunks)

/-- A flag either ends the reading with a command or is noted in it. -/
def addFlag (r : Reading) (flag : Flag) : Except UsageError (Command ⊕ Reading) :=
  match r.settle,flag with
  | .error e,_ => .error e
  | .ok _,.help => .ok (.inl .help)
  | .ok _,.version => .ok (.inl .version)
  | .ok r,.chunks => if r.chunks then .error (.repeated .chunks) else .ok (.inr { r with chunks := true })

/-- An option by its long name, and the value attached to it. -/
def addLong (r : Reading) (name : String) (value : Option String) :
    Except UsageError (Command ⊕ Reading) :=
  match Flag.all.find? (·.name = name),value with
  | some flag,none => r.addFlag flag
  | some flag,some value =>
    .error (.unexpectedValue flag value (r.shownWithValue flag))
  | none,_ =>
    let similar := Text.mostSimilar Flag.name name Flag.all
    .error (.unexpected ("--"++name) similar.isNone similar (r.shown similar))

/-- A word of short options; the first one decides. -/
def addShort (r : Reading) (c : Char) : Except UsageError (Command ⊕ Reading) :=
  match Flag.all.find? (·.short? = some c) with
  | some flag => r.addFlag flag
  | none => .error (.unexpected (String.ofList ['-',c]) true none .nothing)

def splitValue (cs : List Char) : String × Option String :=
  match cs.dropWhile (· ≠ '=') with
  | [] => (String.ofList cs,none)
  | _ :: value => (String.ofList (cs.takeWhile (· ≠ '=')),some (String.ofList value))

/-- Reads one word. A dash alone is an operand. -/
def addWord (r : Reading) (word : String) : Except UsageError (Command ⊕ Reading) :=
  match word.toList with
  | '-' :: '-' :: name => r.addLong (splitValue name).1 (splitValue name).2
  | '-' :: c :: _ => r.addShort c
  | _ => (r.addOperand word).map .inr

def readOperands (r : Reading) : List String → Except UsageError Command
  | [] => r.finish
  | word :: rest =>
    match r.addOperand word with
    | .error e => .error e
    | .ok r => r.readOperands rest

def read (r : Reading) : List String → Except UsageError Command
  | [] => r.finish
  | word :: rest =>
    if word = "--" then r.readOperands rest
    else
      match r.addWord word with
      | .error e => .error e
      | .ok (.inl command) => .ok command
      | .ok (.inr r) => r.read rest

end Reading

/-- The command that the words of a command line give. After a double dash every word is an
operand. -/
def Command.ofWords (words : List String) : Except UsageError Command := Reading.start.read words

end CommandLine
end ColumnarReport
