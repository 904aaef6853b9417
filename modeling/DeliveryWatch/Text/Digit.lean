/-
Decimal digits and whole numbers in text.

* `digit?` reads a decimal digit of any script by the Unicode property `Nd`; every ASCII digit has
  its own value (`digit?_ascii`);
* `number? s` reads a whole number as configuration and mail dates write it: blanks at the ends,
  a sign, digits in groups joined by single underscores, at most 4300 digits;
* `decimal n` writes a number in decimal.
-/
import DeliveryWatch.Text.Basic

namespace DeliveryWatch.Text

/-- First characters of the runs of ten decimal digits, one run for each script. -/
def digitZeros : List Nat :=
  [0x30, 0x660, 0x6F0, 0x7C0, 0x966, 0x9E6, 0xA66, 0xAE6, 0xB66, 0xBE6, 0xC66, 0xCE6, 0xD66,
   0xDE6, 0xE50, 0xED0, 0xF20, 0x1040, 0x1090, 0x17E0, 0x1810, 0x1946, 0x19D0, 0x1A80, 0x1A90,
   0x1B50, 0x1BB0, 0x1C40, 0x1C50, 0xA620, 0xA8D0, 0xA900, 0xA9D0, 0xA9F0, 0xAA50, 0xABF0, 0xFF10,
   0x104A0, 0x10D30, 0x11066, 0x110F0, 0x11136, 0x111D0, 0x112F0, 0x11450, 0x114D0, 0x11650,
   0x116C0, 0x11730, 0x118E0, 0x11950, 0x11C50, 0x11D50, 0x11DA0, 0x16A60, 0x16AC0, 0x16B50,
   0x1D7CE, 0x1D7D8, 0x1D7E2, 0x1D7EC, 0x1D7F6, 0x1E140, 0x1E2F0, 0x1E950, 0x1FBF0]

/-- The value of a decimal digit of any script. -/
def digit? (c : Char) : Option Nat :=
  (digitZeros.find? fun z => z ≤ c.toNat && c.toNat < z + 10).map (c.toNat - ·)

/-- Characters that show a digit but do not write numbers: superscripts, digits in circles and
brackets, digits of scripts that do not count by place. -/
def shownDigitRanges : List (Nat × Nat) :=
  [(0xB2, 0xB3), (0xB9, 0xB9), (0x1369, 0x1371), (0x19DA, 0x19DA), (0x2070, 0x2070),
   (0x2074, 0x2079), (0x2080, 0x2089), (0x2460, 0x2468), (0x2474, 0x247C), (0x2488, 0x2490),
   (0x24EA, 0x24EA), (0x24F5, 0x24FD), (0x24FF, 0x24FF), (0x2776, 0x277E), (0x2780, 0x2788),
   (0x278A, 0x2792), (0x10A40, 0x10A43), (0x10E60, 0x10E68), (0x11052, 0x1105A),
   (0x1F100, 0x1F10A)]

/-- Whether a character shows a digit, decimal or not. -/
def showsDigit (c : Char) : Bool :=
  (digit? c).isSome || shownDigitRanges.any fun r => r.1 ≤ c.toNat && c.toNat ≤ r.2

/-- The number that a row of digit values writes. -/
def ofDigits (ds : List Nat) : Nat := ds.foldl (fun n d => 10 * n + d) 0

/-- Whole numbers of more digits are refused. -/
def maxDigits : Nat := 4300

/-- Digit values of groups of digits joined by single underscores. -/
def groupedDigits? (s : List Char) : Option (List Nat) :=
  let groups := s.splitOn '_'
  if groups.any (·.isEmpty) then none else groups.flatten.mapM digit?

/-- A whole number without sign. -/
def natural? (s : List Char) : Option Nat := do
  let ds ← groupedDigits? s
  if ds.length ≤ maxDigits then some (ofDigits ds) else none

/-- Blanks at the ends of a number; in ASCII text the separators 28-31 do not count as blanks. -/
def stripNumber (s : List Char) : List Char :=
  if s.all (·.toNat < 128) then
    stripWhile (fun c => isBlank c && !(28 ≤ c.toNat && c.toNat ≤ 31)) s
  else strip s

/-- A whole number: blanks at the ends and a sign are allowed. -/
def number? (s : List Char) : Option Int :=
  match stripNumber s with
  | '-' :: r => (natural? r).map fun n => -(n : Int)
  | '+' :: r => (natural? r).map Int.ofNat
  | r => (natural? r).map Int.ofNat

/-- The value of an ASCII digit. -/
def digitValue (c : Char) : Nat := c.toNat - 48

/-- The number that a row of ASCII digits writes. -/
def decimalValue (s : List Char) : Nat := ofDigits (s.map digitValue)

/-- The decimal text of a number. -/
def decimal (n : Int) : String := toString n

/-- The decimal text of a number, filled with zeros to `width` digits. -/
def zeroFilled (width n : Nat) : String :=
  let ds := Nat.toDigits 10 n
  String.ofList (List.replicate (width - ds.length) '0' ++ ds)

/-- The hexadecimal text of a number, in lower case, filled with zeros to `width` digits. -/
def hexFilled (width n : Nat) : String :=
  let ds := Nat.toDigits 16 n
  String.ofList (List.replicate (width - ds.length) '0' ++ ds)

/-- The value of a hexadecimal digit. -/
def hexDigit? (c : Char) : Option Nat :=
  if '0' ≤ c ∧ c ≤ '9' then some (c.toNat - 48)
  else if 'a' ≤ c ∧ c ≤ 'f' then some (c.toNat - 87)
  else if 'A' ≤ c ∧ c ≤ 'F' then some (c.toNat - 55)
  else none

theorem digit?_ascii : ∀ n < 10, digit? (Char.ofNat (48 + n)) = some n := by decide

end DeliveryWatch.Text
