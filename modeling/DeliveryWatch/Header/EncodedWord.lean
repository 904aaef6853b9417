/-
Encoded words: `=?charset?encoding?text?=`, which write text of any character set in ASCII.

* `readEncodedWord s` — the word at the front of a row of symbols, and what follows it;
* a word that only begins like one is `notAWord`, one whose parts make no sense is `senseless`: then
  its signs are read as they stand.
-/
import DeliveryWatch.Bytes.Base64
import DeliveryWatch.Charset.Decode
import DeliveryWatch.Text.Digit

namespace DeliveryWatch.Header

open DeliveryWatch.Header.Symbol

/-- A piece of a decoded word: visible text, or white space. -/
structure Piece where
  text : Symbols
  isSpace : Bool
  deriving Repr, DecidableEq

/-- What a header value has at its front, as to encoded words. -/
inductive WordFound
  /-- A word, and what follows it. -/
  | word (pieces : List Piece) (rest : Symbols)
  /-- Something that only begins like a word. -/
  | notAWord
  /-- A word whose parts make no sense. -/
  | senseless
  deriving Repr

/-- The bytes of a row of ASCII and bytes. -/
def rawBytes? (s : Symbols) : Option (List UInt8) :=
  s.mapM fun
    | char c => if c.toNat < 128 then some (UInt8.ofNat c.toNat) else none
    | byte b => some b

/-- Undo the encoding `q`: underscores are spaces, and an equals sign with two hexadecimal digits
is a byte. -/
def unquote : List UInt8 → List UInt8
  | [] => []
  | 0x3D :: a :: b :: r =>
    match Text.hexDigit? (Char.ofNat a.toNat), Text.hexDigit? (Char.ofNat b.toNat) with
    | some x, some y => UInt8.ofNat (x * 16 + y) :: unquote r
    | _, _ => 0x3D :: unquote (a :: b :: r)
  | b :: r => (if b = 0x5F then 0x20 else b) :: unquote r

/-- Undo the encoding `b`; letters that are no base64 at all stay as they are. -/
def unbase64 (bs : List UInt8) : List UInt8 :=
  let letters := bs.map fun b => Char.ofNat b.toNat
  (Base64.decode? (letters ++ ['=', '='])).getD bs

/-- The bytes of an encoded text by the letter of its encoding. -/
def contentBytes? (encoding : Symbols) (text : Symbols) : Option (List UInt8) := do
  let bs ← rawBytes? text
  match encoding with
  | [x] =>
    if x.is 'q' || x.is 'Q' then some (unquote bs)
    else if x.is 'b' || x.is 'B' then some (unbase64 bs)
    else none
  | _ => none

/-- Decode the three parts of a word. A star and what follows it name the language. -/
def decodeParts? (token : Symbols) : Option Symbols :=
  match token.splitOnP (·.is '?') with
  | [charset, encoding, text] => do
    let bs ← contentBytes? encoding text
    let name := charset.takeWhile (!·.is '*')
    match name.mapM char? with
    | some cs => Charset.decode? cs bs
    | none => Charset.decodeWith Charset.ascii bs
  | _ => none

/-- Cut a decoded text into visible text and white space. -/
def piecesOf : Nat → Symbols → List Piece
  | 0, _ => []
  | _ + 1, [] => []
  | n + 1, x :: r =>
    if isSpaceOrTab x then
      ⟨(x :: r).takeWhile isBlank, true⟩ :: piecesOf n ((x :: r).dropWhile isBlank)
    else
      ⟨(x :: r).takeWhile (!isSpaceOrTab ·), false⟩ ::
        piecesOf n ((x :: r).dropWhile (!isSpaceOrTab ·))

/-- Whether the text starts with two hexadecimal digits. -/
def startsHex : Symbols → Bool
  | char a :: char b :: _ => (Text.hexDigit? a).isSome && (Text.hexDigit? b).isSome
  | _ => false

/-- The closing mark of a word. -/
def wordEnd : Symbols := symbols "?="

/-- The opening mark of a word. -/
def wordStart : Symbols := symbols "=?"

/-- The parts of a word up to its closing mark. The question mark in front of the text may itself
be followed by an escaped byte, which looks like a closing mark. -/
def wordToken? (s : Symbols) : Option (Symbols × Symbols) := do
  let (token, rest) ← Text.cutFirst? wordEnd s
  if startsHex rest && (token.filter (·.is '?')).length < 2 then
    match Text.cutFirst? wordEnd rest with
    | some (more, rest) => some (token ++ wordEnd ++ more, rest)
    | none => some (token ++ wordEnd ++ rest, [])
  else some (token, rest)

/-- The encoded word at the front of a row of symbols. -/
def readEncodedWord (s : Symbols) : WordFound :=
  match wordStart.isPrefixOf? s with
  | none => .notAWord
  | some body =>
    match wordToken? body with
    | none => .notAWord
    | some (token, rest) =>
      match decodeParts? token with
      | some text => .word (piecesOf text.length text) rest
      | none => .senseless

end DeliveryWatch.Header
