import Granary.Text.Digit

/-!
# Dates and times of day

Days and microseconds are counted from the first of January 2000.  Years are counted through zero
and below; a date whose year is beyond the calendar has no text.
-/

namespace Granary.Postgres

/-- A day of the calendar. -/
structure Date where
  year : Int
  month : Nat
  day : Nat
  deriving DecidableEq, Repr, Inhabited

/-- A time of day. -/
structure DayTime where
  hour : Nat
  minute : Nat
  second : Nat
  microsecond : Nat
  deriving DecidableEq, Repr, Inhabited

/-- A number with zeros in front, up to a width. -/
def padded (width n : Nat) : String :=
  let digits := toString n
  String.ofList (List.replicate (width - digits.length) '0') ++ digits

namespace Date

/-- The days from the first of March of the year zero to the first of January 2000. -/
def epoch : Int := 730425

/-- The days of four hundred years. -/
def cycle : Int := 146097

/-- The date of a day.  Years are taken to begin in March, so that a leap day is the last of its
year. -/
def ofDays (days : Int) : Date :=
  let n := days + epoch
  let era := n.fdiv cycle
  let dayOfEra := (n - era * cycle).toNat
  let yearOfEra := (dayOfEra - dayOfEra / 1460 + dayOfEra / 36524 - dayOfEra / 146096) / 365
  let dayOfYear := dayOfEra - (365 * yearOfEra + yearOfEra / 4 - yearOfEra / 100)
  let shifted := (5 * dayOfYear + 2) / 153
  let day := dayOfYear - (153 * shifted + 2) / 5 + 1
  let month := if shifted < 10 then shifted + 3 else shifted - 9
  ⟨yearOfEra + era * 400 + (if month ≤ 2 then 1 else 0), month, day⟩

/-- The day of a date. -/
def days (d : Date) : Int :=
  let year := if d.month ≤ 2 then d.year - 1 else d.year
  let era := year.fdiv 400
  let yearOfEra := (year - era * 400).toNat
  let shifted := if d.month > 2 then d.month - 3 else d.month + 9
  let dayOfYear := (153 * shifted + 2) / 5 + d.day - 1
  let dayOfEra := yearOfEra * 365 + yearOfEra / 4 - yearOfEra / 100 + dayOfYear
  era * cycle + dayOfEra - epoch

/-- The first and the last year of the calendar. -/
def firstYear : Int := -262143
def lastYear : Int := 262142

def isInCalendar (d : Date) : Bool := firstYear ≤ d.year ∧ d.year ≤ lastYear

/-- Four digits, and a sign where four digits are not enough or the year lies below zero. -/
def yearText (year : Int) : String :=
  if 0 ≤ year ∧ year ≤ 9999 then padded 4 year.toNat
  else (if year < 0 then "-" else "+") ++ padded 4 year.natAbs

def text (d : Date) : String := s!"{yearText d.year}-{padded 2 d.month}-{padded 2 d.day}"

end Date

namespace DayTime

/-- The microseconds of a day. -/
def fullDay : Nat := 86400 * 1000000

/-- The time of day so many microseconds after midnight; a day later it is the same. -/
def ofMicroseconds (n : Int) : DayTime :=
  let n := (n.emod fullDay).toNat
  let seconds := n / 1000000
  ⟨seconds / 3600, seconds / 60 % 60, seconds % 60, n % 1000000⟩

/-- No fraction, or three digits, or six. -/
def fractionText (microsecond : Nat) : String :=
  if microsecond = 0 then ""
  else if microsecond % 1000 = 0 then "." ++ padded 3 (microsecond / 1000)
  else "." ++ padded 6 microsecond

def text (t : DayTime) : String :=
  s!"{padded 2 t.hour}:{padded 2 t.minute}:{padded 2 t.second}" ++ fractionText t.microsecond

end DayTime

/-- The text of a day, if the calendar has it. -/
def dayText? (days : Int) : Option String :=
  let date := Date.ofDays days
  if date.isInCalendar then some date.text else none

/-- The text of a time of day. -/
def timeText (microseconds : Int) : String := (DayTime.ofMicroseconds microseconds).text

/-- The text of a moment: its day, a separator, its time of day and an offset. -/
def momentText? (separator offset : String) (microseconds : Int) : Option String :=
  (dayText? (microseconds.fdiv DayTime.fullDay)).map fun day =>
    day ++ separator ++ timeText microseconds ++ offset

end Granary.Postgres
