/-
Templates of log messages: text with directives for values.

* `fill template values` — the text with each directive replaced by a value. A directive is a percent
  sign, perhaps a name in brackets, flags, a width and a precision, and a letter for the form;
* the values are taken in order, and all of them have to be taken; a single object that is not empty
  gives values by their names as well.
-/
import DeliveryWatch.Json.Printer

namespace DeliveryWatch.Log

/-- Why a template cannot be filled. -/
inductive TemplateFault
  /-- The values do not fit the directives in number or kind. -/
  | mismatch
  /-- A value or a width is beyond its range. -/
  | outOfRange
  /-- There is no value of this name. -/
  | noValue (name : String)
  /-- The template ends within a directive. -/
  | incomplete
  /-- The template ends within the name of a directive. -/
  | incompleteName
  | widthTooBig
  | precisionTooBig
  /-- No form has this letter. -/
  | noForm (letter : Char) (index : Nat)
  deriving Repr, DecidableEq

namespace TemplateFault

/-- The letter of an unknown form, as the account shows it. -/
def shownLetter (c : Char) : Char := if 31 ≤ c.toNat ∧ c.toNat ≤ 126 then c else '?'

/-- The account of the fault. -/
def message : TemplateFault → String
  | mismatch => "values do not fit the template"
  | outOfRange => "value out of range"
  | noValue name => Text.quoted name
  | incomplete => "incomplete format"
  | incompleteName => "incomplete format key"
  | widthTooBig => "width too big"
  | precisionTooBig => "precision too big"
  | noForm c i => "unsupported format character '" ++ String.ofList [shownLetter c] ++ "' (0x" ++
      Text.hexFilled 1 c.toNat ++ ") at index " ++ Text.decimal i

end TemplateFault

/-! ### Values -/

/-- The values that are still to be taken, and those that have names. -/
structure Supply where
  pending : List Json
  named : Option (List (String × Json)) := none

namespace Supply

/-- The values for a template. -/
def ofValues : List Json → Supply
  | [.obj (f :: fs)] => ⟨[.obj (f :: fs)], some (f :: fs)⟩
  | vs => ⟨vs, none⟩

/-- Take the next value. -/
def take (s : Supply) : Except TemplateFault (Json × Supply) :=
  match s.pending with
  | v :: rest => .ok (v, { s with pending := rest })
  | [] => .error .mismatch

/-- Make the value of a name the next one. -/
def select (s : Supply) (name : String) : Except TemplateFault Supply :=
  match s.named with
  | none => .error .mismatch
  | some fields =>
    match fields.lookup name with
    | some v => .ok { s with pending := [v] }
    | none => .error (.noValue name)

/-- Whether all values were taken that have to be. -/
def isSpent (s : Supply) : Bool := s.named.isSome || s.pending.isEmpty

end Supply

/-! ### Directives -/

/-- How a value is to be written. -/
structure Layout where
  left : Bool := false
  sign : Bool := false
  space : Bool := false
  alternate : Bool := false
  zero : Bool := false
  width : Nat := 0
  precision : Option Nat := none
  deriving Repr, DecidableEq

namespace Layout

/-- Add a flag. -/
def withFlag? (l : Layout) : Char → Option Layout
  | '-' => some { l with left := true }
  | '+' => some { l with sign := true }
  | ' ' => some { l with space := true }
  | '#' => some { l with alternate := true }
  | '0' => some { l with zero := true }
  | _ => none

/-- Fill a text up to the width. -/
def pad (l : Layout) (s : List Char) : List Char :=
  let blanks := List.replicate (l.width - s.length) ' '
  if l.left then s ++ blanks else blanks ++ s

/-- A text, cut at the precision. -/
def text (l : Layout) (s : String) : List Char :=
  let s := s.toList
  l.pad (match l.precision with
    | some n => s.take n
    | none => s)

/-- The sign of a number. -/
def signOf (l : Layout) (n : Int) : List Char :=
  if n < 0 then ['-'] else if l.sign then ['+'] else if l.space then [' '] else []

/-- A number in a base; `mark` stands in front of it in the alternate form. -/
def number (l : Layout) (base : Nat) (mark : List Char) (n : Int) : List Char :=
  let ds := Nat.toDigits base n.natAbs
  let ds := List.replicate (l.precision.getD 0 - ds.length) '0' ++ ds
  let front := l.signOf n ++ (if l.alternate then mark else [])
  if l.zero && !l.left then
    front ++ List.replicate (l.width - front.length - ds.length) '0' ++ ds
  else l.pad (front ++ ds)

end Layout

/-- Read flags. -/
def readFlags (l : Layout) : List Char → Layout × List Char
  | [] => (l, [])
  | c :: r =>
    match l.withFlag? c with
    | some l => readFlags l r
    | none => (l, c :: r)

/-- Widths and precisions above this are refused. -/
def maxWidth : Nat := 9223372036854775807

/-- A count: a star for the next value, or digits. -/
def readCount (tooBig : TemplateFault) (s : Supply) (text : List Char) :
    Except TemplateFault (Option Int × Supply × List Char) :=
  match text with
  | '*' :: r =>
    match s.take with
    | .ok (.int n, s) => if n.natAbs ≤ maxWidth then .ok (some n, s, r) else .error .outOfRange
    | .ok (.bool b, s) => .ok (some (if b then 1 else 0), s, r)
    | _ => .error .mismatch
  | _ =>
    let ds := text.takeWhile Char.isDigit
    if ds.isEmpty then .ok (none, s, text)
    else if maxWidth < Text.decimalValue ds then .error tooBig
    else .ok (some (Text.decimalValue ds), s, text.dropWhile Char.isDigit)

/-- Read a precision: a point and a count, which may be missing and then is zero. -/
def readPrecision (l : Layout) (s : Supply) (text : List Char) :
    Except TemplateFault (Layout × Supply × List Char) :=
  match text with
  | '.' :: r => do
    let (n, s, r) ← readCount .precisionTooBig s r
    return ({ l with precision := some (n.getD 0).toNat }, s, r)
  | _ => .ok (l, s, text)

/-- Read a width; a negative one puts the text to the left. -/
def readWidth (l : Layout) (s : Supply) (text : List Char) :
    Except TemplateFault (Layout × Supply × List Char) := do
  let (n, s, r) ← readCount .widthTooBig s text
  match n with
  | some n => return ({ l with width := n.natAbs, left := l.left || n < 0 }, s, r)
  | none => return (l, s, r)

/-- The name of a directive up to its closing bracket, `depth` brackets being open. -/
def readName (depth : Nat) : List Char → Option (List Char × List Char)
  | [] => none
  | c :: r =>
    if c = ')' then
      match depth with
      | 0 => some ([], r)
      | d + 1 => (readName d r).map fun (name, rest) => (c :: name, rest)
    else (readName (if c = '(' then depth + 1 else depth) r).map fun (name, rest) => (c :: name, rest)

/-- Select the value of a directive with a name. -/
def readSelection (s : Supply) : List Char → Except TemplateFault (Supply × List Char)
  | '(' :: r =>
    if s.named.isNone then .error .mismatch
    else match readName 0 r with
      | some (name, rest) => do return (← s.select (String.ofList name), rest)
      | none => .error .incompleteName
  | text => .ok (s, text)

/-- Drop a letter for the size of a number, which has no meaning. -/
def afterSize : List Char → List Char
  | c :: r => if c = 'h' ∨ c = 'l' ∨ c = 'L' then r else c :: r
  | [] => []

/-! ### Forms -/

/-- A character beyond ASCII by its number. -/
def asciiChar (c : Char) : List Char :=
  if c.toNat < 128 then [c]
  else if c.toNat < 0x100 then ("\\x" ++ Text.hexFilled 2 c.toNat).toList
  else if c.toNat < 0x10000 then ("\\u" ++ Text.hexFilled 4 c.toNat).toList
  else ("\\U" ++ Text.hexFilled 8 c.toNat).toList

/-- The whole number of a value; `cuts` allows a fraction, which is cut off. -/
def wholeOf (cuts : Bool) : Json → Except TemplateFault Int
  | .int n => .ok n
  | .bool b => .ok (if b then 1 else 0)
  | .fractional x =>
    if !cuts then .error .mismatch
    else if 308 < x.digits.2 then .error .outOfRange
    else if x.mantissa = 0 then .ok 0
    else if 0 ≤ x.exponent then .ok (x.mantissa * (Nat.pow 10 x.exponent.toNat : Nat))
    else .ok (x.mantissa.tdiv (Nat.pow 10 x.exponent.natAbs : Nat))
  | _ => .error .mismatch

/-- The character of a value: a text of one character, or a number. -/
def charOf : Json → Except TemplateFault Char
  | .str s =>
    match s.toList with
    | [c] => .ok c
    | _ => .error .mismatch
  | v => do
    let n ← wholeOf false v
    if 0 ≤ n ∧ n < 0x110000 then .ok (Char.ofNat n.toNat) else .error .outOfRange

/-- A value in the form of a letter, which stands at `index`. -/
def written (l : Layout) (letter : Char) (index : Nat) (v : Json) :
    Except TemplateFault (List Char) :=
  match letter with
  | 's' => .ok (l.text v.display)
  | 'r' => .ok (l.text v.literal)
  | 'a' => .ok (l.text (String.ofList (v.literal.toList.flatMap asciiChar)))
  | 'd' | 'i' | 'u' => do return { l with alternate := false }.number 10 [] (← wholeOf true v)
  | 'x' => do return l.number 16 ['0', 'x'] (← wholeOf false v)
  | 'X' => do return (l.number 16 ['0', 'X'] (← wholeOf false v)).map Char.toUpper
  | 'o' => do return l.number 8 ['0', 'o'] (← wholeOf false v)
  | 'c' => do return l.pad [← charOf v]
  | c => .error (.noForm c index)

/-- A directive behind its percent sign: what it is replaced by, and what follows it. `size` is the
length of the template. -/
def directive (size : Nat) (s : Supply) (text : List Char) :
    Except TemplateFault (List Char × Supply × List Char) := do
  let (s, text) ← readSelection s text
  let (l, text) := readFlags {} text
  let (l, s, text) ← readWidth l s text
  let (l, s, text) ← readPrecision l s text
  match afterSize text with
  | [] => .error .incomplete
  | '%' :: r => return (['%'], s, r)
  | letter :: r =>
    let (v, s) ← s.take
    return (← written l letter (size - r.length - 1) v, s, r)

/-- Fill a template, at most `n` signs. -/
def fillFrom (size : Nat) : Nat → Supply → List Char → Except TemplateFault (List Char)
  | 0, _, _ => .error .incomplete
  | _ + 1, s, [] => if s.isSpent then .ok [] else .error .mismatch
  | n + 1, s, '%' :: r => do
    let (text, s, r) ← directive size s r
    return text ++ (← fillFrom size n s r)
  | n + 1, s, c :: r => do return c :: (← fillFrom size n s r)

/-- The template with its directives replaced by values; without any values it stands as it is. -/
def fill (template : String) (values : List Json) : Except TemplateFault String :=
  if values.isEmpty then .ok template
  else do
    let size := template.length
    return String.ofList (← fillFrom size (size + 1) (.ofValues values) template.toList)

end DeliveryWatch.Log
