import ColumnarReport.Parquet.StoredFile
import ColumnarReport.Parquet.Trailer

/-! Files in directories, the ways of failing to open a path, and the source that loads the
tables of the files. -/
namespace ColumnarReport

/-- What a file holds: bytes, or what its bytes are known to store. -/
inductive FileContent
  | bytes (data : List UInt8)
  | stored (file : Parquet.StoredFile)

inductive FileNode
  | file (content : FileContent)
  | directory (entries : List (List UInt8 × FileNode))

inductive OpenError
  | notFound
  | notDirectory
  | nameTooLong
  | embeddedNul
  | other (text : String)
  deriving DecidableEq, Repr

def OpenError.message : OpenError → String
  | .notFound => "No such file or directory (os error 2)"
  | .notDirectory => "Not a directory (os error 20)"
  | .nameTooLong => "File name too long (os error 36)"
  | .embeddedNul => "file name contained an unexpected NUL byte"
  | .other text => text

structure FileTree where
  root : FileNode
  /-- The directory where relative paths begin, and those above it up to the root. -/
  current : List FileNode

namespace FileTree

def longestName : Nat := 255
def pathLimit : Nat := 4096

/-- Follows the pieces of a path; `above` are the directories that enclose `here`. -/
def walk (here : FileNode) (above : List FileNode) : List (List UInt8) → Except OpenError FileNode
  | [] => .ok here
  | piece :: rest =>
    match here with
    | .file _ => .error .notDirectory
    | .directory entries =>
      if piece = [] ∨ piece = [Path.dot] then walk here above rest
      else if piece = [Path.dot,Path.dot] then
        match above with
        | [] => walk here [] rest
        | parent :: above => walk parent above rest
      else if longestName < piece.length then .error .nameTooLong
      else
        match entries.find? (·.1 = piece) with
        | none => .error .notFound
        | some (_,next) => walk next (here :: above) rest

def resolve (t : FileTree) (p : Path) : Except OpenError FileNode :=
  if p.bytes.contains 0 then .error .embeddedNul
  else if p.bytes = [] then .error .notFound
  else if pathLimit ≤ p.bytes.length then .error .nameTooLong
  else
    match Path.split p.bytes with
    | [] :: rest => walk t.root [] rest
    | pieces => walk (t.current.head?.getD t.root) (t.current.drop 1) pieces

end FileTree

section

variable [ZoneDatabase] [Arrow.BatchJoin]

def FileContent.load (batchSize : Nat) : FileContent → Except SourceError Table
  | .bytes data => .error (.decode (Parquet.trailerError data).message)
  | .stored file => file.load batchSize

def FileNode.load (batchSize : Nat) : FileNode → Except SourceError Table
  | .directory _ => .error (.decode "External: Is a directory (os error 21)")
  | .file content => content.load batchSize

def loadOpened (batchSize : Nat) (path : Path) :
    Except OpenError FileNode → Except SourceError Table
  | .error .notFound => .error (.notFound path)
  | .error e => .error (.io e.message)
  | .ok node => node.load batchSize

def FileTree.source (t : FileTree) (batchSize : Nat) : Source := fun path =>
  loadOpened batchSize path (t.resolve path)

end

def defaultBatchSize : Nat := 8192

-- No table of zones is at hand where the program runs.
instance (priority := low) : ZoneDatabase := .universal
instance (priority := low) : Arrow.BatchJoin := .ofConcat

end ColumnarReport
