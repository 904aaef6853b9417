/-
Values as they are written: as JSON on one line, and as messages show them.

* `Json.render` writes JSON in ASCII only; it parts items by `, ` and names from values by `: `;
* `Json.renderString` escapes quotes, backslashes, control characters and every character beyond
  ASCII, astral characters as two halves;
* `Json.display` — a value within a message: a text as it is, the other values by their literals;
* `Json.literal` — a value within another value, texts in quotes.
-/
import DeliveryWatch.Json.Basic
import DeliveryWatch.Text.Quoted

namespace DeliveryWatch.Json

/-! ### JSON -/

/-- An escape with the four hexadecimal digits of a 16-bit unit. -/
def unitEscape (n : Nat) : List Char := '\\' :: 'u' :: (Text.hexFilled 4 n).toList

/-- One character between the quotes of a string. -/
def escapeChar (c : Char) : List Char :=
  if c = '"' then ['\\', '"']
  else if c = '\\' then ['\\', '\\']
  else if c = '\n' then ['\\', 'n']
  else if c = '\r' then ['\\', 'r']
  else if c = '\t' then ['\\', 't']
  else if c.toNat = 8 then ['\\', 'b']
  else if c.toNat = 12 then ['\\', 'f']
  else if 32 ≤ c.toNat ∧ c.toNat ≤ 126 then [c]
  else if c.toNat < 0x10000 then unitEscape c.toNat
  else
    let n := c.toNat - 0x10000
    unitEscape (0xD800 + n / 0x400) ++ unitEscape (0xDC00 + n % 0x400)

/-- A string between quotes. -/
def renderString (s : String) : List Char := '"' :: s.toList.flatMap escapeChar ++ ['"']

mutual

/-- The value as characters. -/
def renderChars : Json → List Char
  | null => "null".toList
  | bool true => "true".toList
  | bool false => "false".toList
  | int n => (Text.decimal n).toList
  | fractional x => x.text.toList
  | str s => renderString s
  | arr items => '[' :: renderItems items ++ [']']
  | obj fields => '\x7b' :: renderFields fields ++ ['\x7d']

/-- The items of an array, parted by commas. -/
def renderItems : List Json → List Char
  | [] => []
  | [v] => renderChars v
  | v :: rest => renderChars v ++ ',' :: ' ' :: renderItems rest

/-- The fields of an object, parted by commas. -/
def renderFields : List (String × Json) → List Char
  | [] => []
  | [(k, v)] => renderString k ++ ':' :: ' ' :: renderChars v
  | (k, v) :: rest => renderString k ++ ':' :: ' ' :: renderChars v ++ ',' :: ' ' :: renderFields rest

end

/-- The value on one line. -/
def render (v : Json) : String := String.ofList v.renderChars

/-! ### Messages -/

mutual

/-- The value as characters, texts in quotes. -/
def literal : Json → String
  | null => "None"
  | bool true => "True"
  | bool false => "False"
  | int n => Text.decimal n
  | fractional x => x.text
  | str s => Text.quoted s
  | arr items => "[" ++ literalItems items ++ "]"
  | obj fields => "\x7b" ++ literalFields fields ++ "\x7d"

/-- Items parted by commas. -/
def literalItems : List Json → String
  | [] => ""
  | [v] => literal v
  | v :: rest => literal v ++ ", " ++ literalItems rest

/-- Fields parted by commas. -/
def literalFields : List (String × Json) → String
  | [] => ""
  | [(k, v)] => Text.quoted k ++ ": " ++ literal v
  | (k, v) :: rest => Text.quoted k ++ ": " ++ literal v ++ ", " ++ literalFields rest

end

/-- The value within a message: a text stands as it is. -/
def display : Json → String
  | str s => s
  | v => v.literal

/-- A text that may be missing, within a message. -/
def displayText (s : Option String) : String := s.getD "None"

end DeliveryWatch.Json
