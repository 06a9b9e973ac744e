import ColumnarReport.Arrow.DataType
import ColumnarReport.Text.Quoted

/-! The full text of a type, which shows every part of it. -/
namespace ColumnarReport
namespace Arrow

def IntegerType.text : IntegerType → String
  | int8 => "Int8"
  | int16 => "Int16"
  | int32 => "Int32"
  | int64 => "Int64"
  | uint8 => "UInt8"
  | uint16 => "UInt16"
  | uint32 => "UInt32"
  | uint64 => "UInt64"

def TimeUnit.text : TimeUnit → String
  | second => "s"
  | millisecond => "ms"
  | microsecond => "µs"
  | nanosecond => "ns"

def ScalarType.text : ScalarType → String
  | boolean => "Boolean"
  | integer t => t.text
  | float .half => "Float16"
  | float .single => "Float32"
  | float .double => "Float64"
  | utf8 .short => "Utf8"
  | utf8 .long => "LargeUtf8"
  | utf8 .view => "Utf8View"
  | binary .short => "Binary"
  | binary .long => "LargeBinary"
  | binary .view => "BinaryView"
  | fixedBinary size => s!"FixedSizeBinary({size})"
  | date32 => "Date32"
  | date64 => "Date64"
  | time32 unit => "Time32("++unit.text++")"
  | time64 unit => "Time64("++unit.text++")"
  | timestamp unit none => "Timestamp("++unit.text++")"
  | timestamp unit (some zone) => "Timestamp("++unit.text++", "++Text.quote zone++")"
  | duration unit => "Duration("++unit.text++")"
  | yearMonth => "Interval(YearMonth)"
  | dayTime => "Interval(DayTime)"
  | monthDayNano => "Interval(MonthDayNano)"
  | decimal width precision scale => s!"Decimal{width.bits}({precision}, {scale})"

def ListKind.text : ListKind → String
  | list => "List"
  | largeList => "LargeList"
  | listView => "ListView"
  | largeListView => "LargeListView"

def UnionMode.text : UnionMode → String
  | sparse => "Sparse"
  | dense => "Dense"

mutual

def DataType.text : DataType → String
  | .null => "Null"
  | .scalar t => t.text
  | .list kind item => kind.text++"("++item.itemText++")"
  | .fixedSizeList item size => s!"FixedSizeList({size} x "++item.itemText++")"
  | .struct fields => "Struct("++", ".intercalate fields.texts++")"
  | .map entries sorted =>
    "Map("++entries.text++(if sorted then ", sorted)" else ", unsorted)")
  | .dictionary key value => "Dictionary("++key.text++", "++value.text++")"
  | .runEndEncoded runEnds values => "RunEndEncoded("++runEnds.text++", "++values.text++")"
  | .union mode ids fields =>
    "Union("++", ".intercalate (mode.text ::
      ids.zipWith (fun id field => s!"{id}: ("++field++")") fields.texts)++")"

def Field.text : Field → String
  | .mk name type nullable =>
    Text.quote name++": "++(if nullable then "" else "non-null ")++type.text

/-- The item of a list, which is named only when it has an unusual name. -/
def Field.itemText : Field → String
  | .mk name type nullable =>
    (if nullable then "" else "non-null ")++type.text++
    (if name = "item" then "" else ", field: '"++name++"'")

def Fields.texts : Fields → List String
  | .nil => []
  | .cons f fs => f.text :: fs.texts

end

end Arrow
end ColumnarReport
