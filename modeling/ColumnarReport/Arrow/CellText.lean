import ColumnarReport.Arrow.Slots
import ColumnarReport.Arrow.TypeText
import ColumnarReport.Calendar
import ColumnarReport.Number.Style
import ColumnarReport.Text.Utf8

/-! The text of a slot. A value that has no text ends the text of its slot with a fault. -/
namespace ColumnarReport

open scoped Computing
namespace Arrow

/-- Text written so far, and what ended it early. -/
structure SlotText where
  text : String
  fault : Option String
  deriving DecidableEq

namespace SlotText

def plain (text : String) : SlotText := ⟨text,none⟩
def failed (fault : String) : SlotText := ⟨"",some fault⟩

def append (a b : SlotText) : SlotText :=
  if a.fault.isSome then a else ⟨a.text++b.text,b.fault⟩

instance : Append SlotText := ⟨append⟩

def join (separator : String) : List SlotText → SlotText
  | [] => plain ""
  | [a] => a
  | a :: rest => a++plain separator++join separator rest

def shown (a : SlotText) : String :=
  match a.fault with
  | none => a.text
  | some e => a.text++"ERROR: "++e

end SlotText

/-- Floats inside arrays are written positionally from one hundred-thousandth up. -/
def nestedDouble : FloatStyle := ⟨some (-5,16),true,.toEven⟩
def nestedSingle : FloatStyle := ⟨some (-6,13),true,.toEven⟩
def nestedHalf : FloatStyle := ⟨none,false,.up⟩

def floatText : (t : FloatType) → Binary t.format → String
  | .half,x => nestedHalf.write (x.convert .single)
  | .single,x => nestedSingle.write x
  | .double,x => nestedDouble.write x

/-- Digits with a point `scale` places from the right, or followed by zeros. Digits past the
precision are dropped; the point counts its places from the end of what is left, over the sign if
there are too few. -/
def decimalText (precision : Nat) (scale : Int) (value : Int) : String :=
  let sign := if value < 0 then ['-'] else []
  let all := Nat.toDigits 10 value.natAbs
  let kept := sign++all.take precision
  let places := scale.toNat
  if scale ≤ 0 then String.ofList kept++FloatStyle.zeros (-scale).toNat
  else if places < all.length then
    String.ofList (kept.take (kept.length-places))++"."++
      String.ofList (kept.drop (kept.length-places))
  else
    String.ofList sign++"0."++FloatStyle.zeros (places-all.length)++String.ofList all

def notTemporal (t : ScalarType) (value : Int) : SlotText :=
  .failed s!"Cast error: Failed to convert {value} to temporal for {t.text}"

def notMoment (t : ScalarType) (value : Int) : SlotText :=
  .failed s!"Cast error: Failed to convert {value} to datetime for {t.text}"

/-- Seconds and their fraction are taken as 32-bit words. -/
def timeText (t : ScalarType) (unit : TimeUnit) (value : Int) : SlotText :=
  let word : Int := UInt32.size
  let seconds := (value.tdiv unit.perSecond)%word
  let nanoseconds := (value.tmod unit.perSecond*(1000000000/unit.perSecond : Nat))%word
  if seconds < Calendar.secondsPerDay ∧ nanoseconds < 1000000000 then
    .plain (Calendar.clockText ⟨seconds.toNat,nanoseconds.toNat⟩)
  else notTemporal t value

def moment? (unit : TimeUnit) (value : Int) : Option (Int × Nat) :=
  let seconds := value/unit.perSecond
  let fraction := (value%unit.perSecond).toNat
  if Calendar.isWritten (seconds/Calendar.secondsPerDay) then
    some (seconds,fraction*(1000000000/unit.perSecond))
  else none

variable [ZoneDatabase]

/-- In a zone a moment has the date and time there, and the offset that holds at the moment. -/
def timestampText (t : ScalarType) (unit : TimeUnit) (zone : Option String) (value : Int) :
    SlotText :=
  match moment? unit value with
  | none => notMoment t value
  | some (seconds,nanoseconds) =>
    match zone.bind TimeZone.offsetAt? with
    | none => .plain (Calendar.momentText seconds nanoseconds)
    | some offsetAt =>
      let offset := offsetAt seconds
      .plain (Calendar.momentText (seconds+offset) nanoseconds++Calendar.offsetText offset)

def trimFraction (nanoseconds : Nat) : String :=
  let digits := (Calendar.padded 9 nanoseconds).toList
  String.ofList (digits.reverse.dropWhile (· = '0')).reverse

/-- Durations are held to the range of 64-bit milliseconds. -/
def durationText (unit : TimeUnit) (value : Int) : String :=
  let most : Int := Int64.maxValue.toInt
  if (unit = .second ∧ most/1000 < value.natAbs) ∨ (unit = .millisecond ∧ most < value.natAbs) then
    "<invalid>"
  else if value = 0 then "P0D"
  else
    let nanoseconds := value.natAbs%unit.perSecond*(1000000000/unit.perSecond)
    (if value < 0 then "-" else "")++s!"PT{value.natAbs/unit.perSecond}"++
      (if nanoseconds = 0 then "" else "."++trimFraction nanoseconds)++"S"

def yearMonthText (months : Int) : String := s!"{months/12} years {months%12} mons"

/-- Hours, minutes and seconds of a count, those that are not zero; `places` decimals. -/
def clockParts (places : Nat) (value : Int) : List String :=
  let unit : Int := (10^places : Nat)
  let seconds := value.tdiv unit
  let minutes := seconds.tdiv 60
  let hours := minutes.tdiv 60
  let seconds := seconds-minutes*60
  let minutes := minutes-hours*60
  let fraction := value.tmod unit
  (if hours = 0 then [] else [s!"{hours} hours"])++
  (if minutes = 0 then [] else [s!"{minutes} mins"])++
  (if seconds = 0 ∧ fraction = 0 then []
  else [(if seconds < 0 ∨ fraction < 0 then "-" else "")++s!"{seconds.natAbs}."++
    Calendar.padded places fraction.natAbs++" secs"])

def countPart (value : Int) (unit : String) : List String :=
  if value = 0 then [] else [toString value++" "++unit]

def dayTimeText (value : Int × Int) : String :=
  " ".intercalate (countPart value.1 "days"++clockParts 3 value.2)

def monthDayNanoText (value : Int × Int × Int) : String :=
  " ".intercalate (countPart value.1 "mons"++countPart value.2.1 "days"++clockParts 9 value.2.2)

def scalarText (t : ScalarType) (value : t.Carrier) : SlotText :=
  match t,value with
  | .boolean,v => .plain (if v then "true" else "false")
  | .integer _,v => .plain (toString v.val)
  | .float t,v => .plain (floatText t v)
  | .utf8 _,v => .plain v
  | .binary _,v => .plain (Utf8.hex v)
  | .fixedBinary _,v => .plain (Utf8.hex v)
  | .date32,v =>
    if Calendar.isWritten v.val then .plain (Calendar.dateText (Calendar.dateOfDay v.val))
    else notTemporal .date32 v.val
  | .date64,v =>
    match moment? .millisecond v.val with
    | none => notTemporal .date64 v.val
    | some (seconds,nanoseconds) => .plain (Calendar.momentText seconds nanoseconds)
  | .time32 unit,v => timeText (.time32 unit) unit v.val
  | .time64 unit,v => timeText (.time64 unit) unit v.val
  | .timestamp unit zone,v => timestampText (.timestamp unit zone) unit zone v.val
  | .duration unit,v => .plain (durationText unit v.val)
  | .yearMonth,v => .plain (yearMonthText v.val)
  | .dayTime,v => .plain (dayTimeText v)
  | .monthDayNano,v => .plain (monthDayNanoText v)
  | .decimal _ precision scale,v => .plain (decimalText precision scale v.val)

def braced (a : SlotText) : SlotText := .plain "\x7b"++a++.plain "\x7d"

mutual

def Slots.text {t : DataType} (s : Slots t) (i : Nat) : SlotText :=
  match s with
  | .null _ => .plain ""
  | .scalar (t := t) values =>
    match values[i]?.join with
    | none => .plain ""
    | some v => scalarText t v
  | .list ranges child =>
    match ranges[i]?.join with
    | none => .plain ""
    | some (start,len) =>
      .plain "["++SlotText.join ", " ((List.range' start len).map child.text)++.plain "]"
  | @Slots.fixedSizeList _ size present child =>
    if present[i]?.getD false then
      .plain "["++SlotText.join ", " ((List.range' (i*size.toNat) size.toNat).map child.text)++.plain "]"
    else .plain ""
  | .struct present columns =>
    if present[i]?.getD false then braced (.join ", " (columns.memberTexts i)) else .plain ""
  | .map ranges child =>
    match ranges[i]?.join with
    | none => .plain ""
    | some (start,len) =>
      braced (.join ", " ((List.range' start len).map child.entryText))
  | .dictionary keys values =>
    match keys[i]?.join with
    | none => .plain ""
    | some k => values.text k
  | .runs ends offset _ values => values.text (runAt ends (offset+i))
  | .union members columns =>
    match members[i]? with
    | none => .plain ""
    | some (place,j) => braced (columns.choiceText place j)

def Slots.entryText {t : DataType} (s : Slots t) (i : Nat) : SlotText :=
  match s with
  | .struct _ (.cons keys (.cons values _)) => keys.text i++.plain ": "++values.text i
  | _ => .plain ""

def Columns.memberTexts {fs : Fields} (c : Columns fs) (i : Nat) : List SlotText :=
  match c with
  | .nil => []
  | .cons (f := f) head tail => (.plain (f.name++": ")++head.text i) :: tail.memberTexts i

def Columns.choiceText {fs : Fields} (c : Columns fs) (place i : Nat) : SlotText :=
  match c,place with
  | .nil,_ => .plain ""
  | .cons (f := f) head _,0 => .plain (f.name++"=")++head.text i
  | .cons _ tail,place+1 => tail.choiceText place i

end

end Arrow
end ColumnarReport
