/-
Reading JSON.

* `Json.read?` reads a whole text as one value; blanks may stand between its parts.
-/
import DeliveryWatch.Json.Basic

namespace DeliveryWatch.Json

/-- Space, tab and line ends, which may stand between the parts of a value. -/
def isGap (c : Char) : Bool := c == ' ' || c == '\t' || c == '\n' || c == '\r'

def skipGap (s : List Char) : List Char := s.dropWhile isGap

/-- The 16-bit unit written by four hexadecimal digits. -/
def unit? : List Char → Option (Nat × List Char)
  | a :: b :: c :: d :: r => do
    let a ← Text.hexDigit? a
    let b ← Text.hexDigit? b
    let c ← Text.hexDigit? c
    let d ← Text.hexDigit? d
    some (((a * 16 + b) * 16 + c) * 16 + d, r)
  | _ => none

/-- The character of an escape, whose backslash is read already. Two units that are the halves of
an astral character are one character. -/
def escaped? : List Char → Option (Char × List Char)
  | 'u' :: r => do
    let (high, r) ← unit? r
    if 0xD800 ≤ high ∧ high < 0xDC00 then
      match r with
      | '\\' :: 'u' :: r =>
        let (low, r) ← unit? r
        if 0xDC00 ≤ low ∧ low < 0xE000 then
          some (Char.ofNat (0x10000 + (high - 0xD800) * 0x400 + (low - 0xDC00)), r)
        else none
      | _ => none
    else some (Char.ofNat high, r)
  | 'n' :: r => some ('\n', r)
  | 'r' :: r => some ('\r', r)
  | 't' :: r => some ('\t', r)
  | 'b' :: r => some (Char.ofNat 8, r)
  | 'f' :: r => some (Char.ofNat 12, r)
  | c :: r => if c = '"' ∨ c = '\\' ∨ c = '/' then some (c, r) else none
  | [] => none

/-- The characters of a string up to its closing quote, and what follows. -/
def stringBody? : Nat → List Char → Option (List Char × List Char)
  | 0, _ => none
  | _ + 1, [] => none
  | n + 1, c :: r =>
    if c = '"' then some ([], r)
    else if c = '\\' then do
      let (d, r) ← escaped? r
      let (ds, r) ← stringBody? n r
      some (d :: ds, r)
    else do
      let (ds, r) ← stringBody? n r
      some (c :: ds, r)

/-- A string whose opening quote is read already. -/
def readString? (s : List Char) : Option (String × List Char) :=
  (stringBody? (s.length + 1) s).map fun (cs, r) => (String.ofList cs, r)

def isDigit (c : Char) : Bool := '0' ≤ c && c ≤ '9'

/-- The exponent at the front, if there is one. -/
def exponent? : List Char → Option (Int × List Char)
  | e :: r =>
    if e = 'e' ∨ e = 'E' then
      let (sign, r) := match r with
        | '-' :: r => ((-1 : Int), r)
        | '+' :: r => (1, r)
        | r => (1, r)
      match r.takeWhile isDigit with
      | [] => none
      | ds => some (sign * Text.decimalValue ds, r.dropWhile isDigit)
    else none
  | [] => none

/-- A number without sign, negated if `negative`. -/
def readNumber? (negative : Bool) (s : List Char) : Option (Json × List Char) :=
  let whole := s.takeWhile isDigit
  let r := s.dropWhile isDigit
  let signed (n : Nat) : Int := if negative then -n else n
  if whole.isEmpty then none
  else
    let (fraction, r) := match r with
      | '.' :: t => if (t.takeWhile isDigit).isEmpty then ([], r) else (t.takeWhile isDigit, t.dropWhile isDigit)
      | _ => ([], r)
    let mantissa := signed (Text.decimalValue (whole ++ fraction))
    match exponent? r, fraction with
    | some (e, r), _ => some (fractional ⟨mantissa, e - fraction.length⟩, r)
    | none, [] => some (int mantissa, r)
    | none, _ => some (fractional ⟨mantissa, -(fraction.length : Int)⟩, r)

mutual

/-- One value at the front of the text, of at most `n` nested parts. -/
def value? : Nat → List Char → Option (Json × List Char)
  | 0, _ => none
  | n + 1, s =>
    match skipGap s with
    | '"' :: r => (readString? r).map fun (t, r) => (str t, r)
    | '[' :: r =>
      match skipGap r with
      | ']' :: r => some (arr [], r)
      | r => (items? n r).map fun (vs, r) => (arr vs, r)
    | '\x7b' :: r =>
      match skipGap r with
      | '\x7d' :: r => some (obj [], r)
      | r => (fields? n r).map fun (fs, r) => (obj fs, r)
    | 'n' :: 'u' :: 'l' :: 'l' :: r => some (null, r)
    | 't' :: 'r' :: 'u' :: 'e' :: r => some (bool true, r)
    | 'f' :: 'a' :: 'l' :: 's' :: 'e' :: r => some (bool false, r)
    | '-' :: r => readNumber? true r
    | r => readNumber? false r

/-- The items of an array up to its closing bracket; there is at least one. -/
def items? : Nat → List Char → Option (List Json × List Char)
  | 0, _ => none
  | n + 1, s => do
    let (v, r) ← value? n s
    match skipGap r with
    | ',' :: r =>
      let (vs, r) ← items? n r
      some (v :: vs, r)
    | ']' :: r => some ([v], r)
    | _ => none

/-- The fields of an object up to its closing brace; there is at least one. -/
def fields? : Nat → List Char → Option (List (String × Json) × List Char)
  | 0, _ => none
  | n + 1, s =>
    match skipGap s with
    | '"' :: r => do
      let (name, r) ← readString? r
      match skipGap r with
      | ':' :: r =>
        let (v, r) ← value? n r
        match skipGap r with
        | ',' :: r =>
          let (fs, r) ← fields? n r
          some ((name, v) :: fs, r)
        | '\x7d' :: r => some ([(name, v)], r)
        | _ => none
      | _ => none
    | _ => none

end

/-- The value that a text writes. -/
def read? (text : String) : Option Json :=
  let s := text.toList
  match value? (s.length + 1) s with
  | some (v, r) => if (skipGap r).isEmpty then some v else none
  | none => none

end DeliveryWatch.Json
