/-
Numbers and yes-or-no values of settings.

* `readNumber` — a whole number: white space at its ends, a plus sign, zeros in front, single
  underscores between digits and a fraction of zeros are allowed, at most 4300 digits;
* `readYesNo` — one of six words for yes or six for no.
-/
import DeliveryWatch.Text.Basic
import DeliveryWatch.Text.Case
import DeliveryWatch.Text.Digit

namespace DeliveryWatch.Settings

/-- What is wrong with the value of a setting. -/
inductive Problem
  | noNumber
  | numberTooLong
  | noYesNo
  deriving Repr, DecidableEq

/-- The name of the problem in reports. -/
def Problem.name : Problem → String
  | noNumber => "int_parsing"
  | numberTooLong => "int_parsing_size"
  | noYesNo => "bool_parsing"

/-- White space around a number; the separators 28-31 do not count. -/
def isNumberSpace (c : Char) : Bool := Text.isBlank c && !(28 ≤ c.toNat && c.toNat ≤ 31)

def isDigit (c : Char) : Bool := '0' ≤ c && c ≤ '9'

/-- A plain number: digits without zeros in front, and a minus sign if it is negative. -/
def plainNumber (s : List Char) : Except Problem Int :=
  let (negative, ds) := match s with
    | '-' :: r => (true, r)
    | _ => (false, s)
  if ds.isEmpty || !ds.all isDigit || (ds.head? == some '0' && 1 < ds.length) then .error .noNumber
  else if Text.maxDigits < ds.length then .error .numberTooLong
  else .ok (if negative then -(Text.decimalValue ds : Int) else Text.decimalValue ds)

/-- Drop zeros and underscores in front of a digit or point; the last zero in front of a point stays.
A number starts with a digit or a minus sign. -/
def withoutZeros? (s : List Char) : Option (List Char) :=
  match s with
  | '0' :: r =>
    match r.dropWhile fun c => c == '0' || c == '_' with
    | [] => s.getLast?.map ([·])
    | '.' :: t => some (s.drop (s.length - t.length - 2))
    | c :: t => if isDigit c then some (c :: t) else none
  | c :: _ => if isDigit c || c == '-' then some s else none
  | [] => none

/-- Drop a fraction of zeros. -/
def withoutFraction (s : List Char) : List Char :=
  match Text.cutFirst? ['.'] s with
  | some (whole, zeros) => if !zeros.isEmpty && zeros.all (· == '0') then whole else s
  | none => s

/-- Drop single underscores between other characters. -/
def withoutUnderscores (s : List Char) : List Char :=
  if (s.splitOn '_').any (·.isEmpty) then s else s.filter (· != '_')

/-- The plain form of a number. -/
def plainForm? (s : List Char) : Option (List Char) := do
  let s ← match s with
    | '+' :: '-' :: _ => none
    | '+' :: r => some r
    | _ => some s
  let s ← withoutZeros? s
  some (withoutUnderscores (withoutFraction s))

/-- The whole number that the value of a setting writes. -/
def readNumber (text : String) : Except Problem Int :=
  let s := Text.stripWhile isNumberSpace text.toList
  match plainNumber s with
  | .error .noNumber =>
    match plainForm? s with
    | some t => plainNumber t
    | none => .error .noNumber
  | r => r

/-- Words for yes. -/
def yesWords : List String := ["1", "on", "t", "true", "y", "yes"]

/-- Words for no. -/
def noWords : List String := ["0", "off", "f", "false", "n", "no"]

/-- The answer that the value of a setting gives; ASCII case is ignored. -/
def readYesNo (text : String) : Except Problem Bool :=
  let word := String.ofList (Text.lowerAscii text.toList)
  if yesWords.contains word then .ok true
  else if noWords.contains word then .ok false
  else .error .noYesNo

end DeliveryWatch.Settings
