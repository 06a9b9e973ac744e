/-! Dates of the proleptic Gregorian calendar and times of day, from counts since the start
of 1970. Years that start in March put the leap day last, so that every month but the last has
a length that a line through the month numbers gives. -/
namespace ColumnarReport

structure Date where
  year : Int
  month : Nat
  day : Nat
  deriving DecidableEq, Repr

/-- Nanoseconds are those past the last whole second. -/
structure TimeOfDay where
  seconds : Nat
  nanoseconds : Nat
  deriving DecidableEq, Repr

namespace Calendar

def daysPerEra : Int := 146097
/-- Days from the first of March of year zero to the start of 1970. -/
def epochOffset : Int := 719468

/-- The date of a day, counted from the start of 1970. -/
def dateOfDay (days : Int) : Date :=
  let z := days+epochOffset
  let era := z/daysPerEra
  let dayOfEra := (z%daysPerEra).toNat
  let yearOfEra := (dayOfEra-dayOfEra/1460+dayOfEra/36524-dayOfEra/146096)/365
  let dayOfYear := dayOfEra-(365*yearOfEra+yearOfEra/4-yearOfEra/100)
  let march := (5*dayOfYear+2)/153
  let month := if march < 10 then march+3 else march-9
  ⟨yearOfEra+era*400+(if month ≤ 2 then 1 else 0),month,dayOfYear-(153*march+2)/5+1⟩

def dayOfDate (d : Date) : Int :=
  let year := if d.month ≤ 2 then d.year-1 else d.year
  let era := year/400
  let yearOfEra := (year%400).toNat
  let march := if d.month ≤ 2 then d.month+9 else d.month-3
  let dayOfYear := (153*march+2)/5+d.day-1
  era*daysPerEra+(yearOfEra*365+yearOfEra/4-yearOfEra/100+dayOfYear : Nat)-epochOffset

def firstDay : Int := dayOfDate ⟨-262143,1,1⟩
def lastDay : Int := dayOfDate ⟨262142,12,31⟩

/-- Dates are written for the years from -262143 to 262142. -/
def isWritten (day : Int) : Bool := decide (firstDay ≤ day ∧ day ≤ lastDay)

def secondsPerDay : Nat := 86400

def padded (width n : Nat) : String :=
  let digits := Nat.toDigits 10 n
  String.ofList (List.replicate (width-digits.length) '0'++digits)

/-- Four digits; outside the years 0 to 9999 with a sign. -/
def yearText (year : Int) : String :=
  if 0 ≤ year ∧ year ≤ 9999 then padded 4 year.toNat
  else (if year < 0 then "-" else "+")++padded 4 year.natAbs

def dateText (d : Date) : String :=
  yearText d.year++"-"++padded 2 d.month++"-"++padded 2 d.day

/-- The least of no, three, six or nine digits that is exact. -/
def fractionText (nanoseconds : Nat) : String :=
  if nanoseconds = 0 then ""
  else if nanoseconds%1000000 = 0 then "."++padded 3 (nanoseconds/1000000)
  else if nanoseconds%1000 = 0 then "."++padded 6 (nanoseconds/1000)
  else "."++padded 9 nanoseconds

def clockText (t : TimeOfDay) : String :=
  padded 2 (t.seconds/3600)++":"++padded 2 (t.seconds/60%60)++":"++padded 2 (t.seconds%60)++
  fractionText t.nanoseconds

def momentText (seconds : Int) (nanoseconds : Nat) : String :=
  dateText (dateOfDay (seconds/secondsPerDay))++"T"++
  clockText ⟨(seconds%secondsPerDay).toNat,nanoseconds⟩

/-- Hours and minutes east of the prime meridian, to the nearest minute; no offset at all is written
as a letter. -/
def offsetText (seconds : Int) : String :=
  if seconds = 0 then "Z"
  else
    let minutes := (seconds.natAbs+30)/60
    (if seconds < 0 then "-" else "+")++padded 2 (minutes/60)++":"++padded 2 (minutes%60)

end Calendar

namespace TimeZone

def digits? (cs : List Char) : Option Nat :=
  if cs.all Char.isDigit then some (cs.foldl (fun n c => n*10+(c.toNat-48)) 0) else none

def offset? (sign : Char) (hours minutes : List Char) : Option Int := do
  let h ← digits? hours
  let m ← digits? minutes
  let seconds := h*3600+m*60
  if 86400 ≤ seconds then none
  else if sign = '+' then some seconds
  else if sign = '-' then some (-seconds)
  else none

def fixedOffset? (zone : String) : Option Int :=
  match zone.toList with
  | [s,a,b,':',c,d] => offset? s [a,b] [c,d]
  | [s,a,b,c,d] => offset? s [a,b] [c,d]
  | [s,a,b] => offset? s [a,b] ['0','0']
  | _ => none

end TimeZone

/-- The zones that are known by name. The offset of a zone, in seconds east of the prime meridian,
can be another one at each second, counted from the start of 1970. -/
class ZoneDatabase where
  offset? (zone : String) : Option (Int → Int)

def TimeZone.offsetAt? [ZoneDatabase] (zone : String) : Option (Int → Int) :=
  match fixedOffset? zone with
  | some offset => some fun _ => offset
  | none => ZoneDatabase.offset? zone

namespace ZoneDatabase

@[reducible] def universal : ZoneDatabase where
  offset? zone := if zone = "UTC" then some fun _ => 0 else none

end ZoneDatabase
end ColumnarReport
