/-
The symbols of a header value: characters, and bytes that no character set was found for.

* `Symbol.ofText`, `Symbol.ofByteChars` — the symbols of a text, and of a message that came as bytes;
* `toText` — the text of a row of symbols: the bytes in it are read as UTF-8 together with the
  characters, and what is no UTF-8 is replaced; a row without bytes is its own text
  (`toText_ofText`).
-/
import DeliveryWatch.Bytes.Utf8
import DeliveryWatch.Text.Basic

namespace DeliveryWatch.Header

/-- A character, or a byte that stands for itself. -/
inductive Symbol
  | char (c : Char)
  | byte (b : UInt8)
  deriving Repr, DecidableEq, Inhabited

/-- A row of symbols. -/
abbrev Symbols := List Symbol

namespace Symbol

/-- Whether the symbol is a character of the class. -/
def isIn (p : Char → Bool) : Symbol → Bool
  | char c => p c
  | byte _ => false

/-- Whether the symbol is this character. -/
def is (a : Char) : Symbol → Bool
  | char c => c == a
  | byte _ => false

/-- The character of the symbol. -/
def char? : Symbol → Option Char
  | char c => some c
  | byte _ => none

/-- The bytes of the symbol in UTF-8. -/
def bytes : Symbol → List UInt8
  | char c => Utf8.encodeChar c
  | byte b => [b]

/-- The symbols of a text. -/
def ofText (s : List Char) : Symbols := s.map char

/-- The symbols of a text that holds one character for each byte of a message: those beyond ASCII
are bytes of no known character set. -/
def ofByteChars (s : List Char) : Symbols :=
  s.map fun c => if c.toNat < 128 then char c else byte (UInt8.ofNat c.toNat)

/-- The characters of a row; a byte becomes the sign for what is no character. -/
def plainChars (s : Symbols) : List Char := s.map fun x => x.char?.getD Utf8.replacement

end Symbol

open DeliveryWatch.Header.Symbol

def isSpaceOrTab (x : Symbol) : Bool := x.isIn Text.isSpaceOrTab

def isBlank (x : Symbol) : Bool := x.isIn Text.isBlank

/-- The text of a row of symbols. -/
def toText (s : Symbols) : String :=
  match s.mapM char? with
  | some cs => String.ofList cs
  | none => Utf8.decodeLossy (s.flatMap bytes)

/-- The symbols of a word of the program's own. -/
def symbols (s : String) : Symbols := ofText s.toList

/-- Put between quotes: the backslash and the quote are escaped. -/
def quoteWith (marks : List Char) (s : Symbols) : Symbols :=
  s.flatMap fun x => if marks.any x.is then [char '\\', x] else [x]

/-- A quoted string with this content. -/
def quoted (s : Symbols) : Symbols := char '"' :: quoteWith ['\\', '"'] s ++ [char '"']

theorem mapM_char?_ofText (s : List Char) : (ofText s).mapM char? = some s := by
  induction s with
  | nil => rfl
  | cons c r ih =>
    have : ofText (c :: r) = char c :: ofText r := rfl
    rw [this, List.mapM_cons, ih]
    rfl

/-- A row of characters is its own text. -/
@[simp] theorem toText_ofText (s : List Char) : toText (ofText s) = String.ofList s := by
  simp [toText, mapM_char?_ofText]

end DeliveryWatch.Header
