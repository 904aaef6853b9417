/-
The calendar, and points in time as mail and the ledger write them: a date, a time of day, and the
distance of the zone from UTC if it is known.

* `Calendar.isLeap`, `Calendar.daysInMonth` — the lengths of years and months, in the years 1 to 9999
  of the Gregorian rule, reckoned backwards and forwards;
* `Calendar.dayNumber y m d` — days since the day before 1 January of year 1, so that differences of
  dates are differences of numbers; `Calendar.weekday` — 0 for Monday to 6 for Sunday;
* `Time.instant` — microseconds on one common axis, so that times of different zones compare;
* `Time.mailText` — the form of a Date header;
* `Time.ledgerText` — the form in which the ledger keeps a time, without the zone.
-/
import DeliveryWatch.Text.Digit

namespace DeliveryWatch.Calendar

/-- Every fourth year is a leap year, of the full centuries only every fourth. -/
def isLeap (y : Nat) : Bool := y % 4 == 0 && (y % 100 != 0 || y % 400 == 0)

/-- Days of a month; months are numbered from 1. -/
def daysInMonth (y m : Nat) : Nat :=
  if m = 2 then (if isLeap y then 29 else 28)
  else if m = 4 ∨ m = 6 ∨ m = 9 ∨ m = 11 then 30
  else 31

/-- Days of the years before year `y`. -/
def daysBeforeYear (y : Nat) : Nat :=
  let p := y - 1
  365 * p + p / 4 - p / 100 + p / 400

/-- Days of the year `y` before month `m`. -/
def daysBeforeMonth (y m : Nat) : Nat :=
  (List.range (m - 1)).foldl (fun n i => n + daysInMonth y (i + 1)) 0

/-- The number of a day; 1 January of year 1 is day 1. -/
def dayNumber (y m d : Nat) : Nat := daysBeforeYear y + daysBeforeMonth y m + d

/-- The date of a day number in the year or beside it. -/
def dateNear? (year n : Nat) : Option (Nat × Nat × Nat) :=
  [year - 1, year, year + 1].findSome? fun y =>
    (List.range 12).findSome? fun m =>
      let start := dayNumber y (m + 1) 1
      if 0 < y && start ≤ n && n < start + daysInMonth y (m + 1) then
        some (y, m + 1, n - start + 1)
      else none

/-- The date of a day number: 400 years have 146097 days. -/
def dateOf? (n : Nat) : Option (Nat × Nat × Nat) := dateNear? (n * 400 / 146097 + 1) n

/-- The day of the week, 0 for Monday. -/
def weekday (y m d : Nat) : Nat := (dayNumber y m d + 6) % 7

/-- Abbreviated names of the days of the week, Monday first. -/
def dayNames : List String := ["Mon", "Tue", "Wed", "Thu", "Fri", "Sat", "Sun"]

/-- Abbreviated names of the months. -/
def monthNames : List String :=
  ["Jan", "Feb", "Mar", "Apr", "May", "Jun", "Jul", "Aug", "Sep", "Oct", "Nov", "Dec"]

/-- Full names of the months. -/
def fullMonthNames : List String :=
  ["January", "February", "March", "April", "May", "June", "July", "August", "September",
   "October", "November", "December"]

/-- The least year a date can have. -/
def minYear : Nat := 1

/-- The greatest year a date can have. -/
def maxYear : Nat := 9999

end DeliveryWatch.Calendar

namespace DeliveryWatch

/-- A date and time of day; `offset` is the zone in seconds east of UTC, `none` for a time whose
zone is not known. -/
structure Time where
  year : Nat
  month : Nat
  day : Nat
  hour : Nat
  minute : Nat
  second : Nat
  microsecond : Nat := 0
  offset : Option Int := none
  deriving Repr, DecidableEq, Inhabited

namespace Time

/-- Seconds of the wall clock since the day before 1 January of year 1. -/
def wallSeconds (t : Time) : Nat :=
  ((Calendar.dayNumber t.year t.month t.day * 24 + t.hour) * 60 + t.minute) * 60 + t.second

/-- Microseconds on the axis of UTC; a time without zone is read as if its zone were UTC. -/
def instant (t : Time) : Int :=
  ((t.wallSeconds : Int) - t.offset.getD 0) * 1000000 + t.microsecond

/-- The time in UTC, a number of seconds after the beginning of 1970. -/
def afterEpoch? (seconds : Nat) : Option Time := do
  let (year, month, day) ← Calendar.dateOf? (Calendar.dayNumber 1970 1 1 + seconds / 86400)
  return { year := year, month := month, day := day, hour := seconds / 3600 % 24,
           minute := seconds / 60 % 60, second := seconds % 60, offset := some 0 }

/-- Whether the zone of the time is known. -/
def isZoned (t : Time) : Bool := t.offset.isSome

/-- The time with the zone UTC if its zone was not known. -/
def orUtc (t : Time) : Time := { t with offset := some (t.offset.getD 0) }

/-- A zone as sign, hours and minutes, and seconds where there are some. -/
def zoneText (offset : Int) : String :=
  let n := offset.natAbs
  let seconds := if n % 60 = 0 then "" else Text.zeroFilled 2 (n % 60)
  (if offset < 0 then "-" else "+") ++ Text.zeroFilled 2 (n / 3600) ++
    Text.zeroFilled 2 (n / 60 % 60) ++ seconds

/-- The name of the day of the week. -/
def dayName (t : Time) : String :=
  (Calendar.dayNames[Calendar.weekday t.year t.month t.day]?).getD ""

/-- The abbreviated name of the month. -/
def monthName (t : Time) : String := (Calendar.monthNames[t.month - 1]?).getD ""

/-- Hours, minutes and seconds with colons. -/
def clockText (t : Time) : String :=
  Text.zeroFilled 2 t.hour ++ ":" ++ Text.zeroFilled 2 t.minute ++ ":" ++ Text.zeroFilled 2 t.second

/-- The form of a Date header; the zone `-0000` says that the zone is not known. -/
def mailText (t : Time) : String :=
  t.dayName ++ ", " ++ Text.zeroFilled 2 t.day ++ " " ++ t.monthName ++ " " ++
    Text.zeroFilled 4 t.year ++ " " ++ t.clockText ++ " " ++ (t.offset.map zoneText).getD "-0000"

/-- The form in which the ledger keeps a time: the wall clock, without the zone. -/
def ledgerText (t : Time) : String :=
  Text.zeroFilled 4 t.year ++ "-" ++ Text.zeroFilled 2 t.month ++ "-" ++ Text.zeroFilled 2 t.day ++
    " " ++ t.clockText ++ "." ++ Text.zeroFilled 6 t.microsecond

@[simp] theorem isZoned_orUtc (t : Time) : t.orUtc.isZoned = true := rfl

end Time

end DeliveryWatch
