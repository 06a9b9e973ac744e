import ColumnarReport.Arrow.TypeText
import ColumnarReport.Text.LetterCase

/-! The names that the report gives to types. -/
namespace ColumnarReport
namespace Arrow

def IntegerType.reportName : IntegerType → String
  | int8 => "int8"
  | int16 => "int16"
  | int32 => "int32"
  | int64 => "int64"
  | uint8 => "uint8"
  | uint16 => "uint16"
  | uint32 => "uint32"
  | uint64 => "uint64"

def TimeUnit.reportName : TimeUnit → String
  | second => "s"
  | millisecond => "ms"
  | microsecond => "us"
  | nanosecond => "ns"

def ScalarType.reportName : ScalarType → String
  | boolean => "bool"
  | integer t => t.reportName
  | float .half => "halffloat"
  | float .single => "float"
  | float .double => "double"
  | utf8 .short => "string"
  | utf8 .long => "large_string"
  | utf8 .view => "string_view"
  | binary .short => "binary"
  | binary .long => "large_binary"
  | binary .view => "binary_view"
  | fixedBinary size => s!"fixed_size_binary[{size}]"
  | date32 => "date32[day]"
  | date64 => "date64[ms]"
  | time32 unit => s!"time32[{unit.reportName}]"
  | time64 unit => s!"time64[{unit.reportName}]"
  | timestamp unit none => s!"timestamp[{unit.reportName}]"
  | timestamp unit (some zone) => s!"timestamp[{unit.reportName}, tz={zone}]"
  | decimal .w128 precision scale => s!"decimal128({precision}, {scale})"
  | decimal .w256 precision scale => s!"decimal256({precision}, {scale})"
  | t => Text.lowercase t.text

mutual

/-- Types without a name of their own are named by their full text in lower case. -/
def DataType.reportName : DataType → String
  | .null => "null"
  | .scalar t => t.reportName
  | .list .list item => "list<"++item.reportName++">"
  | .list .largeList item => "large_list<"++item.reportName++">"
  | .struct fields => "struct<"++", ".intercalate fields.reportNames++">"
  | .map (.mk _ (.struct (.cons (.mk _ key _) (.cons (.mk _ value _) .nil))) _) _ =>
    "map<"++key.reportName++", "++value.reportName++">"
  | .map (.mk _ type _) _ => "map<"++type.reportName++">"
  | .dictionary key value =>
    "dictionary<values="++value.reportName++", indices="++key.reportName++">"
  | t => Text.lowercase t.text

def Field.reportName : Field → String
  | .mk name type _ => name++": "++type.reportName

def Fields.reportNames : Fields → List String
  | .nil => []
  | .cons f fs => f.reportName :: fs.reportNames

end

end Arrow
end ColumnarReport
