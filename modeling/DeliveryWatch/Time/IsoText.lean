/-
Times as the ledger reads them back: `2024-05-01 12:00:00.000000` and the related forms of ISO 8601.

* `IsoText.timeOf` — the time of a text: a date by month and day or by week and day, with or without
  dashes; one character; a time of day of two to six digits with or without colons, a fraction; a
  zone. The time of day may be missing.
-/
import DeliveryWatch.Text.Quoted
import DeliveryWatch.Time.Basic

namespace DeliveryWatch.IsoText

open Text

/-- Why a text is no time. -/
inductive Fault
  /-- The text has not the form of a time. -/
  | unreadable (text : String)
  | zoneOutOfRange (offset : Int)
  | yearOutOfRange (year : Nat)
  | monthOutOfRange
  | dayOutOfRange
  | hourOutOfRange
  | minuteOutOfRange
  | secondOutOfRange
  deriving Repr, DecidableEq

/-- A duration as the account of a fault shows it. -/
def durationText (seconds : Int) : String :=
  let days := seconds.fdiv 86400
  let rest := seconds.fmod 86400
  let parts := (if days = 0 then [] else ["days=" ++ decimal days]) ++
    (if rest = 0 then [] else ["seconds=" ++ decimal rest])
  "datetime.timedelta(" ++ (if parts.isEmpty then "0" else String.intercalate ", " parts) ++ ")"

/-- The account of the fault. -/
def Fault.message : Fault → String
  | unreadable text => "Invalid isoformat string: " ++ quoted text
  | zoneOutOfRange offset =>
    "offset must be a timedelta strictly between -timedelta(hours=24) and timedelta(hours=24), not " ++
      durationText offset ++ "."
  | yearOutOfRange year => "year " ++ decimal year ++ " is out of range"
  | monthOutOfRange => "month must be in 1..12"
  | dayOutOfRange => "day is out of range for month"
  | hourOutOfRange => "hour must be in 0..23"
  | minuteOutOfRange => "minute must be in 0..59"
  | secondOutOfRange => "second must be in 0..59"

def isDigit (c : Char) : Bool := '0' ≤ c && c ≤ '9'

/-- A number of exactly `n` digits at the front of a text. -/
def digits? (n : Nat) (s : List Char) : Option (Nat × List Char) :=
  let ds := s.take n
  if ds.length = n && ds.all isDigit then some (decimalValue ds, s.drop n) else none

/-! ### The date -/

/-- How many characters the date takes. -/
def dateLength (s : List Char) : Nat :=
  let at? (i : Nat) (p : Char → Bool) : Bool := (s[i]?).any p
  if s.length = 7 then 7
  else if at? 4 (· == '-') then
    if at? 5 (· == 'W') && !(at? 8 (· == '-') && !at? 10 isDigit) then 8 else 10
  else if at? 4 (· == 'W') then
    let n := 7 + ((s.drop 7).takeWhile isDigit).length
    if n < 9 then n else if n % 2 = 0 then 7 else 8
  else 8

/-- The number of the Monday of the first week of a year: the week with the first Thursday. -/
def firstMonday (year : Nat) : Nat :=
  let first := Calendar.dayNumber year 1 1
  let weekday := Calendar.weekday year 1 1
  if weekday ≤ 3 then first - weekday else first + 7 - weekday

/-- Whether a year has 53 weeks. -/
def isLongYear (year : Nat) : Bool :=
  let weekday := Calendar.weekday year 1 1
  weekday == 3 || (weekday == 2 && Calendar.isLeap year)

/-- A date by week and day. -/
def weekDate? (year week day : Nat) : Option (Nat × Nat × Nat) :=
  if week = 0 || 53 < week || (week = 53 && !isLongYear year) || day = 0 || 7 < day then none
  else Calendar.dateNear? year (firstMonday year + 7 * (week - 1) + day - 1)

/-- Drop a dash if the date has dashes. -/
def dash? (dashed : Bool) (s : List Char) : Option (List Char) :=
  if dashed then (match s with
    | '-' :: r => some r
    | _ => none)
  else some s

/-- The date that a text holds. -/
def date? (s : List Char) : Option (Nat × Nat × Nat) := do
  let (year, r) ← digits? 4 s
  let dashed := r.head? == some '-'
  let r := if dashed then r.drop 1 else r
  match r with
  | 'W' :: r =>
    let (week, r) ← digits? 2 r
    if r.isEmpty then weekDate? year week 1
    else
      let (day, _) ← digits? 1 (← dash? dashed r)
      weekDate? year week day
  | r =>
    let (month, r) ← digits? 2 r
    let (day, _) ← digits? 2 (← dash? dashed r)
    some (year, month, day)

/-! ### The time of day -/

/-- A time of day, and whether something is left behind it. -/
structure Clock where
  hour : Nat := 0
  minute : Nat := 0
  second : Nat := 0
  microsecond : Nat := 0
  hasRest : Bool := false
  deriving Repr, DecidableEq

/-- The fraction of a second: six digits count, further digits are passed over. -/
def fraction? (s : List Char) : Option (Nat × Bool) := do
  let n := min 6 s.length
  let (v, r) ← digits? n s
  some (v * Nat.pow 10 (6 - n), !(r.dropWhile isDigit).isEmpty)

/-- The numbers of a time of day from its `n`th on; `colons` tells whether colons part them, and
`before` holds those already read. -/
def clockFrom? (isLast : Bool) (colons : Option Bool) (before : List Nat) :
    Nat → List Char → Option Clock
  | 0, s => do
    let (us, rest) ← fraction? s
    some (clock before us rest)
  | n + 1, s => do
    let (v, r) ← digits? 2 s
    let colons := colons.getD (r.head? == some ':')
    let before := before ++ [v]
    match r with
    | [] => some (clock before 0 !isLast)
    | [_] => some (clock before 0 true)
    | c :: t =>
      if colons && c == ':' then clockFrom? isLast (some colons) before n t
      else if c == '.' || c == ',' then
        let (us, rest) ← fraction? t
        some (clock before us rest)
      else if !colons then clockFrom? isLast (some colons) before n r
      else none
where
  /-- The time of day with these numbers. -/
  clock (numbers : List Nat) (us : Nat) (rest : Bool) : Clock :=
    ⟨numbers.getD 0 0, numbers.getD 1 0, numbers.getD 2 0, us, rest⟩

/-- A time of day; `isLast` tells whether the text ends behind it. -/
def clock? (isLast : Bool) (s : List Char) : Option Clock := clockFrom? isLast none [] 3 s

/-- A time of day and a zone in seconds. -/
def clockAndZone? (s : List Char) : Option (Clock × Option Int) := do
  let isZone (c : Char) : Bool := c == '+' || c == '-' || c == 'Z'
  let time := s.takeWhile (!isZone ·)
  match s.dropWhile (!isZone ·) with
  | [] =>
    let c ← clock? true time
    if c.hasRest then none else some (c, none)
  | 'Z' :: r =>
    let c ← clock? false time
    if r.isEmpty then some (c, some 0) else none
  | sign :: r =>
    let c ← clock? false time
    let z ← clock? true r
    let n : Int := (z.hour * 3600 + z.minute * 60 + z.second : Nat)
    if z.hasRest then none else some (c, some (if sign = '-' then -n else n))

/-! ### The whole -/

/-- The parts of a time, before their ranges are checked. -/
def read? (s : List Char) : Option ((Nat × Nat × Nat) × Clock × Option Int) := do
  let n := dateLength s
  let date ← date? (s.take n)
  if s.length ≤ n + 1 then some (date, {}, none)
  else
    let (c, zone) ← clockAndZone? (s.drop (n + 1))
    some (date, c, zone)

/-- The time that a text writes. -/
def timeOf (text : String) : Except Fault Time :=
  match read? text.toList with
  | none => .error (.unreadable text)
  | some ((y, m, d), c, zone) => do
    if zone.any (86400 ≤ ·.natAbs) then .error (.zoneOutOfRange (zone.getD 0))
    if y < Calendar.minYear ∨ Calendar.maxYear < y then .error (.yearOutOfRange y)
    if m < 1 ∨ 12 < m then .error .monthOutOfRange
    if d < 1 ∨ Calendar.daysInMonth y m < d then .error .dayOutOfRange
    if 23 < c.hour then .error .hourOutOfRange
    if 59 < c.minute then .error .minuteOutOfRange
    if 59 < c.second then .error .secondOutOfRange
    return ⟨y, m, d, c.hour, c.minute, c.second, c.microsecond, zone⟩

end DeliveryWatch.IsoText
