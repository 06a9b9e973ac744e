import ColumnarReport.Number.ByteOrder
import ColumnarReport.Text.Utf8

/-! The end of a file: the serialized metadata, its length as a little-endian word, and a mark. -/
namespace ColumnarReport
namespace Parquet

inductive TrailerError
  | tooSmall (size need : Nat)
  | corrupt
  | encrypted
  | unexpectedEnd
  | notRead
  deriving DecidableEq, Repr

def TrailerError.message : TrailerError → String
  | .tooSmall size need => s!"EOF: Parquet file too small. Size is {size} but need {need}"
  | .corrupt => "Parquet error: Invalid Parquet file. Corrupt footer"
  | .encrypted =>
    "Parquet error: Parquet file has an encrypted footer but the encryption feature is disabled"
  | .unexpectedEnd => "EOF: Unexpected EOF"
  | .notRead => "NYI: Reading serialized metadata is not supported"

def trailerSize : Nat := 8

def plainMark : List UInt8 := Utf8.encode "PAR1"
def encryptedMark : List UInt8 := Utf8.encode "PARE"

def serializedMetadata (bytes : List UInt8) : Except TrailerError (List UInt8) :=
  let size := bytes.length
  if size < trailerSize then .error (.tooSmall size trailerSize)
  else
    let trailer := bytes.drop (size-trailerSize)
    let mark := trailer.drop 4
    let length := ByteOrder.ofLittle (trailer.take 4)
    if mark ≠ plainMark ∧ mark ≠ encryptedMark then .error .corrupt
    else if size < length+trailerSize then .error (.tooSmall size (length+trailerSize))
    else if mark = encryptedMark then .error .encrypted
    else .ok ((bytes.drop (size-trailerSize-length)).take length)

/-- Why no table is read from these bytes. -/
def trailerError (bytes : List UInt8) : TrailerError :=
  match serializedMetadata bytes with
  | .error e => e
  | .ok metadata => if metadata.isEmpty then .unexpectedEnd else .notRead

end Parquet
end ColumnarReport
