/-
Header values as messages write them, one field to a line however long it is.

* `encodedWord s` — a text in one encoded word, in whichever of the two encodings is shorter;
* `written? s` — a value: ASCII as it stands, any other text in an encoded word. A value of several
  lines is written line by line, unless one of them then reads as a field of its own.
-/
import DeliveryWatch.Bytes.Base64
import DeliveryWatch.Bytes.Utf8
import DeliveryWatch.Text.Basic
import DeliveryWatch.Text.Quoted

namespace DeliveryWatch.Header

open Text

/-! ### Encoded words -/

/-- Whether a byte stands for itself in the encoding `q`: letters, digits and five signs. -/
def isPlainByte (b : UInt8) : Bool :=
  let c := Char.ofNat b.toNat
  b < 0x80 && (c.isAlphanum || c == '-' || c == '!' || c == '*' || c == '+' || c == '/')

/-- A byte in the encoding `q`: an underscore for a space, and two hexadecimal digits behind an equals
sign for a byte that does not stand for itself. -/
def quoteByte (b : UInt8) : List Char :=
  if isPlainByte b then [Char.ofNat b.toNat]
  else if b = 0x20 then ['_']
  else '=' :: (hexFilled 2 b.toNat).toList.map Char.toUpper

/-- A text in one encoded word; an empty text needs none. -/
def encodedWord (s : List Char) : List Char :=
  if s.isEmpty then []
  else
    let bytes := Utf8.encode (String.ofList s)
    let quoted := bytes.flatMap quoteByte
    let letters := Base64.encode bytes
    if letters.length < quoted.length then "=?utf-8?b?".toList ++ letters ++ "?=".toList
    else "=?utf-8?q?".toList ++ quoted ++ "?=".toList

/-! ### Lines of values -/

/-- Drop a space at the end that stands alone. -/
def withoutLoneSpace (s : List Char) : List Char :=
  match s.reverse with
  | ' ' :: r => if r.head?.any Text.isSpaceOrTab then s else r.reverse
  | _ => s

/-- Put a line behind others. A blank line is put at the end of the one before, an empty one is left
out. -/
def addLine (written : List (List Char)) (line : List Char) : List (List Char) :=
  let line := withoutLoneSpace line
  if line.isEmpty then written
  else if line.all Text.isBlank then
    match written.getLast? with
    | some last => written.dropLast ++ [last ++ line]
    | none => [line]
  else written ++ [line]

/-- The lines of a value as they are written. -/
def writtenLines (s : List Char) : List (List Char) :=
  let isAscii := s.all (·.toNat < 128)
  match splitLines s with
  | [] => []
  | [line] => [if isAscii then line else encodedWord line]
  | line :: rest =>
    if isAscii then rest.foldl addLine [withoutLoneSpace line]
    else
      let continued (l : List Char) : List Char := ' ' :: encodedWord (' ' :: l.dropWhile Text.isBlank)
      encodedWord line :: rest.map continued

/-- Whether some line but the first reads as a field: characters other than white space, and a
colon behind at least one of them. -/
def embedsField : List Char → Bool
  | [] => false
  | c :: r =>
    (c == '\n' && ((r.takeWhile (!Text.isSpaceOrTab ·)).drop 1).contains ':') || embedsField r

/-- A value with a line that reads as a field of its own. -/
structure EmbeddedField where
  value : String
  deriving Repr, DecidableEq

/-- The account of the fault. -/
def EmbeddedField.message (f : EmbeddedField) : String :=
  "header value appears to contain an embedded header: " ++ Text.quoted f.value

/-- A value as it is written. -/
def written? (s : String) : Except EmbeddedField String :=
  let text := ['\n'].intercalate (writtenLines s.toList)
  if embedsField text then .error ⟨String.ofList text⟩ else .ok (String.ofList text)

end DeliveryWatch.Header
