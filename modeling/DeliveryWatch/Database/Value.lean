/-
Values in the cells of a table, and the affinity of a column: the kind of value it prefers.

* `Affinity.ofType` reads the affinity off the declared type of a column;
* `Affinity.store` is what a column keeps of a value given to it;
* `Affinity.agrees` compares a kept value with a given one.
-/
import DeliveryWatch.Json.Basic
import DeliveryWatch.Text.Basic

namespace DeliveryWatch.Database

/-- A value in a cell. -/
inductive Value
  | null
  | int (n : Int)
  | real (x : Fractional)
  | text (s : String)
  /-- Bytes, which no column changes. -/
  | blob (bytes : List UInt8)
  deriving Repr, DecidableEq, Inhabited

/-- The kind of value that a column prefers. -/
inductive Affinity
  | integer
  | text
  | blob
  | real
  | numeric
  deriving Repr, DecidableEq

namespace Affinity

/-- Whether the declared type names one of the words, ASCII case ignored. -/
def mentions (type : String) (ws : List String) : Bool :=
  let t := type.toList.map Char.toUpper
  ws.any fun w => Text.holds w.toList t

/-- The affinity of a declared type: the first rule that applies counts. -/
def ofType (type : String) : Affinity :=
  if mentions type ["INT"] then integer
  else if mentions type ["CHAR", "CLOB", "TEXT"] then text
  else if mentions type ["BLOB"] || type.isEmpty then blob
  else if mentions type ["REAL", "FLOA", "DOUB"] then real
  else numeric

/-- Whether the column turns text that writes a number into that number. -/
def isNumeric : Affinity → Bool
  | integer | real | numeric => true
  | text | blob => false

end Affinity

/-- The least whole number that has no place in a cell: cells have 64 bits with the sign. -/
def cellLimit : Int := 9223372036854775808

/-- Whether a whole number has a place in a cell. -/
def fitsCell (n : Int) : Bool := -cellLimit ≤ n && n < cellLimit

/-- A number with a fraction, as a whole number if it is one. -/
def ofFractional (x : Fractional) : Value :=
  let (ds, power) := x.digits
  let places := power + 1 - ds.length
  if x.mantissa = 0 then .int 0
  else if 0 ≤ places ∧ power < 18 then
    let n : Int := (Text.decimalValue ds * Nat.pow 10 places.toNat : Nat)
    .int (if x.mantissa < 0 then -n else n)
  else .real ⟨(if x.mantissa < 0 then -1 else 1) * (Text.decimalValue ds : Int), places⟩

def isDigit (c : Char) : Bool := '0' ≤ c && c ≤ '9'

/-- White space that may stand around a number in text. -/
def isNumberGap (c : Char) : Bool := c == ' ' || (9 ≤ c.toNat && c.toNat ≤ 13)

/-- The exponent of a number, which has to end the text. -/
def exponent? : List Char → Option Int
  | [] => some 0
  | e :: r =>
    if e = 'e' ∨ e = 'E' then
      let (sign, ds) := match r with
        | '-' :: ds => ((-1 : Int), ds)
        | '+' :: ds => (1, ds)
        | ds => (1, ds)
      if ds.isEmpty || !ds.all isDigit then none else some (sign * Text.decimalValue ds)
    else none

/-- The number that a text writes: digits with a sign, a point and an exponent, white space around
them. -/
def numberOfText? (s : String) : Option Value :=
  let body := Text.stripWhile isNumberGap s.toList
  let (negative, r) := match body with
    | '-' :: r => (true, r)
    | '+' :: r => (false, r)
    | r => (false, r)
  let whole := r.takeWhile isDigit
  let r := r.dropWhile isDigit
  let signed (n : Nat) : Int := if negative then -n else n
  if r.isEmpty && !whole.isEmpty && fitsCell (signed (Text.decimalValue whole)) then
    some (.int (signed (Text.decimalValue whole)))
  else
    let (fraction, r) := match r with
      | '.' :: t => (t.takeWhile isDigit, t.dropWhile isDigit)
      | r => ([], r)
    if whole.isEmpty && fraction.isEmpty then none
    else (exponent? r).map fun e =>
      ofFractional ⟨signed (Text.decimalValue (whole ++ fraction)), e - fraction.length⟩

/-- A value as text, if it is a number. -/
def textOfNumber : Value → Value
  | .int n => .text (Text.decimal n)
  | .real x => .text x.text
  | v => v

/-- A value as number, if it is text that writes one. -/
def numberOfValue : Value → Value
  | .text s => (numberOfText? s).getD (.text s)
  | .real x => ofFractional x
  | v => v

/-- What a column keeps of a value. -/
def Affinity.store (a : Affinity) (v : Value) : Value :=
  if a.isNumeric then numberOfValue v else if a = .text then textOfNumber v else v

/-- Whether a value that a column keeps equals a value given by a caller; nothing equals `null`. -/
def Affinity.agrees (a : Affinity) (kept given : Value) : Bool :=
  match kept with
  | .null => false
  | _ => kept == a.store given

/-- The cell value of a value of JSON; lists and objects have none. -/
def Value.ofJson? : Json → Option Value
  | .null => some .null
  | .bool b => some (.int (if b then 1 else 0))
  | .int n => some (.int n)
  | .fractional x => some (.real x)
  | .str s => some (.text s)
  | .arr _ => none
  | .obj _ => none

/-- The value of a text that may be missing. -/
def Value.ofText? (s : Option String) : Value := (s.map Value.text).getD .null

end DeliveryWatch.Database
