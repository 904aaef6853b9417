/-
Dates as mail writes them: `Mon, 2 Jan 2006 15:04:05 -0700` and the many forms that are read
beside it (no day name, month before day, two-digit years, named zones, the zone missing).

* `MailDate.read?` finds the six numbers and the zone in a text, whatever their ranges;
* `MailDate.time?` checks the ranges, and refuses with a `DateFault` that names the first number out
  of range, in a fixed order.
-/
import DeliveryWatch.Text.Basic
import DeliveryWatch.Text.Case
import DeliveryWatch.Time.Basic

namespace DeliveryWatch

/-- The numbers of a written date; the zone is in seconds, `none` where it is missing, unreadable or
`-0000`. -/
structure MailDate where
  year : Int
  month : Nat
  day : Int
  hour : Int
  minute : Int
  second : Int
  zone : Option Int
  deriving Repr, DecidableEq

/-- Why a text is no point in time. -/
inductive DateFault
  /-- The text has not the form of a date. -/
  | unreadable (text : String)
  /-- The zone is so large that no duration holds it; `days` is its number of days. -/
  | zoneTooLarge (days : Int)
  /-- The zone is a day or more. -/
  | zoneOutOfRange (zone : Int)
  /-- A number does not fit a machine word. -/
  | fieldTooLarge (value : Int)
  | yearOutOfRange (year : Int)
  | dayOutOfRange
  | hourOutOfRange
  | minuteOutOfRange
  | secondOutOfRange
  deriving Repr, DecidableEq

namespace DateFault

/-- The largest magnitude, in days, of a duration. -/
def maxDurationDays : Int := 999999999

/-- Whether a value does not fit a signed machine word of `bits` bits. -/
def exceedsWord (bits : Nat) (v : Int) : Bool :=
  let limit : Int := Nat.pow 2 (bits - 1)
  v < -limit || limit ≤ v

/-- Whether the fault is a number too large to be computed with, not a number out of its range. -/
def isOverflow : DateFault → Bool
  | zoneTooLarge _ | fieldTooLarge _ => true
  | _ => false

/-- The full account of the fault. -/
def message : DateFault → String
  | unreadable text => "Invalid date value or format \"" ++ text ++ "\""
  | zoneTooLarge days =>
    if exceedsWord 32 days then "Python int too large to convert to C int"
    else "days=" ++ Text.decimal days ++ "; must have magnitude <= 999999999"
  | zoneOutOfRange _ => "offset out of range"
  | fieldTooLarge v =>
    if exceedsWord 64 v then "Python int too large to convert to C long"
    else if v < 0 then "signed integer is less than minimum"
    else "signed integer is greater than maximum"
  | yearOutOfRange y => "year " ++ Text.decimal y ++ " is out of range"
  | dayOutOfRange => "day is out of range for month"
  | hourOutOfRange => "hour must be in 0..23"
  | minuteOutOfRange => "minute must be in 0..59"
  | secondOutOfRange => "second must be in 0..59"

/-- The account of the fault in a report on a trace field, where numbers too large are one case. -/
def reason (f : DateFault) : String := if f.isOverflow then "number too large" else f.message

end DateFault

namespace MailDate

open Text

/-- The five words of a date, before their numbers are read. -/
structure Parts where
  day : List Char
  month : List Char
  year : List Char
  clock : List Char
  zone : List Char

/-- Names that stand for months, abbreviated names first. -/
def monthWords : List (List Char) :=
  (Calendar.monthNames ++ Calendar.fullMonthNames).map fun m => lowerAscii m.toList

def dayWords : List (List Char) := Calendar.dayNames.map fun d => lowerAscii d.toList

/-- Named zones, as hours and minutes in one number. -/
def namedZones : List (String × Int) :=
  [("UT", 0), ("UTC", 0), ("GMT", 0), ("Z", 0), ("AST", -400), ("ADT", -300), ("EST", -500),
   ("EDT", -400), ("CST", -600), ("CDT", -500), ("MST", -700), ("MDT", -600), ("PST", -800),
   ("PDT", -700)]

/-- The words of the date without the day of the week in front: a first word that is a day name or
ends with a comma is dropped, else what stands before its last comma. -/
def withoutDayName : List (List Char) → List (List Char)
  | [] => []
  | w :: ws =>
    if w.getLast? = some ',' ∨ lower w ∈ dayWords then ws
    else match cutLast? [','] w with
      | some (_, after) => after :: ws
      | none => w :: ws

/-- Three words may hold the date in one, joined by dashes. -/
def withoutDashes : List (List Char) → List (List Char)
  | [date, clock, zone] =>
    match date.splitOn '-' with
    | [d, m, y] => [d, m, y, clock, zone]
    | _ => [date, clock, zone]
  | ws => ws

/-- Four words may hold the zone at the end of the fourth, from its first plus or else minus on;
else the zone is missing. -/
def withZone : List (List Char) → List (List Char)
  | [d, m, y, clock] =>
    let mark := if clock.contains '+' then '+' else '-'
    match cutWhere (· == mark) clock with
    | (before@(_ :: _), zone@(_ :: _)) => [d, m, y, before, zone]
    | _ => [d, m, y, clock, []]
  | ws => ws

/-- Drop one comma at the end. -/
def withoutComma (w : List Char) : List Char :=
  if w.getLast? = some ',' then w.dropLast else w

/-- The number of a month by its name in lower case. -/
def monthNumber? (w : List Char) : Option Nat := (monthWords.idxOf? w).map fun i => i % 12 + 1

/-- Sort out which word is which: the month may stand before the day, the time of day before the
year, and the zone before the year. -/
def arrange? : List (List Char) → Option (Parts × Nat)
  | dd :: mm :: yy :: tm :: tz :: _ => do
    if dd.isEmpty || mm.isEmpty || yy.isEmpty then none
    let (dd, month) ← match monthNumber? (lower mm) with
      | some m => some (dd, m)
      | none => (monthNumber? (lower dd)).map (mm, ·)
    let (yy, tm) := if yy.contains ':' && yy.head? != some ':' then (tm, yy) else (yy, tm)
    let yy := withoutComma yy
    let first ← yy.head?
    let (yy, tz) := if showsDigit first then (yy, tz) else (tz, yy)
    some (⟨withoutComma dd, mm, yy, withoutComma tm, tz⟩, month)
  | _ => none

/-- Hour, minute and second of a time of day, parted by colons or else by points; the seconds may
be missing. -/
def clockWords? (tm : List Char) : Option (List Char × List Char × List Char) :=
  match tm.splitOn ':' with
  | [h, m] => some (h, m, ['0'])
  | [h, m, s] => some (h, m, s)
  | [_] =>
    match tm.splitOn '.' with
    | [h, m] => some (h, m, ['0'])
    | [h, m, s] => some (h, m, s)
    | _ => none
  | _ => none

/-- Years of two digits are those from 1969 to 2068. -/
def fullYear (y : Int) : Int := if y < 100 then (if 68 < y then y + 1900 else y + 2000) else y

/-- Seconds of a zone given as hours and minutes in one number. -/
def zoneSeconds (hhmm : Int) : Int :=
  hhmm.sign * (((hhmm.natAbs / 100) * 3600 + (hhmm.natAbs % 100) * 60 : Nat) : Int)

/-- The zone of a date: a name, or a number with sign. Zero with a minus sign says that the zone is
not known. -/
def zone? (tz : List Char) : Option Int :=
  let tz := upper tz
  let hhmm? := match namedZones.lookup (String.ofList tz) with
    | some n => some n
    | none => (number? tz).bind fun n => if n = 0 ∧ tz.head? = some '-' then none else some n
  hhmm?.map zoneSeconds

/-- The numbers of a written date. -/
def read? (text : List Char) : Option MailDate := do
  let (parts, month) ← arrange? (withZone (withoutDashes (withoutDayName (words text))))
  let (h, m, s) ← clockWords? parts.clock
  let year ← number? parts.year
  let day ← number? parts.day
  let hour ← number? h
  let minute ← number? m
  let second ← number? s
  some ⟨fullYear year, month, day, hour, minute, second, zone? parts.zone⟩

/-- Check the zone: it has to be a duration, and less than a day. -/
def checkZone (zone : Int) : Except DateFault Unit :=
  let days := zone.fdiv 86400
  if DateFault.maxDurationDays < days ∨ days < -DateFault.maxDurationDays then
    .error (.zoneTooLarge days)
  else if 86400 ≤ zone.natAbs then .error (.zoneOutOfRange zone)
  else .ok ()

/-- Check that every number fits a machine word. -/
def checkWords : List Int → Except DateFault Unit
  | [] => .ok ()
  | v :: vs => if DateFault.exceedsWord 32 v then .error (.fieldTooLarge v) else checkWords vs

/-- The point in time, if every number is in its range. The zone is checked first, then the numbers
from the year down. -/
def time? (d : MailDate) : Except DateFault Time := do
  match d.zone with
  | some z => checkZone z
  | none => pure ()
  checkWords [d.year, d.day, d.hour, d.minute, d.second]
  if d.year < Calendar.minYear ∨ Calendar.maxYear < d.year then .error (.yearOutOfRange d.year)
  if d.day < 1 ∨ (Calendar.daysInMonth d.year.toNat d.month : Int) < d.day then
    .error .dayOutOfRange
  if d.hour < 0 ∨ 23 < d.hour then .error .hourOutOfRange
  if d.minute < 0 ∨ 59 < d.minute then .error .minuteOutOfRange
  if d.second < 0 ∨ 59 < d.second then .error .secondOutOfRange
  return { year := d.year.toNat, month := d.month, day := d.day.toNat, hour := d.hour.toNat,
           minute := d.minute.toNat, second := d.second.toNat, offset := d.zone }

/-- The point in time that a text writes. -/
def timeOf (text : String) : Except DateFault Time :=
  match read? text.toList with
  | some d => d.time?
  | none => .error (.unreadable text)

end MailDate

end DeliveryWatch
