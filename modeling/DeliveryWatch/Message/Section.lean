/-
The lines of a message, the fields of its header section, and the lines of its body.

* `lines s` cuts a text into its lines; together they make up the text (`flatten_lines`). A line ends
  with a line feed, a carriage return, or both in this order, and keeps its end;
* `readSection raw` — the fields in order, the lines of the body, and what is wrong with the header;
* `Section.values name` — the values of the fields of a name, ASCII case ignored;
* `Raw` — a message as it arrives, as text or as bytes; `Raw.chars` are the characters that it is cut
  into lines and fields by: those of the text, or one for each byte;
* `Raw.symbols` — what a part of these characters means in a header value: in a message that arrived
  as bytes, those beyond ASCII are bytes of no known character set;
* `contentText bs` — the text of bytes: they are read as UTF-8, and bytes that are no UTF-8 are read one
  character each, so that none is lost.

The header ends with the first line that cannot stand in it. If that is an empty line it belongs
neither to the header nor to the body; if it is another line, the body starts with it and the header
has no end of its own, which is a defect. A sender line (`From …`) may come first; as the last line
of the header it is given back to the body, anywhere else it is skipped.
-/
import DeliveryWatch.Bytes.Utf8
import DeliveryWatch.Header.Symbol
import DeliveryWatch.Text.Basic

namespace DeliveryWatch.Message

open Text

/-! ### Lines -/

/-- The lines of a text, each with its end; only the last may lack one. -/
def lines : List Char → List (List Char)
  | [] => []
  | '\n' :: r => ['\n'] :: lines r
  | '\r' :: '\n' :: r => ['\r', '\n'] :: lines r
  | '\r' :: r => ['\r'] :: lines r
  | c :: r =>
    match lines r with
    | [] => [[c]]
    | l :: ls => (c :: l) :: ls

/-- Cutting into lines loses nothing. -/
theorem flatten_lines (s : List Char) : (lines s).flatten = s := by
  fun_induction lines s with
  | case1 => rfl
  | case2 r ih => simp [ih]
  | case3 r ih => simp [ih]
  | case4 r _ ih => simp [ih]
  | case5 c r _ _ _ h ih =>
    rw [h] at ih
    simp at ih
    simp [← ih]
  | case6 c r _ _ _ l ls h ih =>
    rw [h] at ih
    simp only [List.flatten_cons] at ih
    simp [ih]

/-- Whether a line starts with a line end, as an empty line does. -/
def isEmptyLine (line : List Char) : Bool := line.head?.any isLineEnd

/-- Whether a line starts with white space and so goes on with the field before it. -/
def isContinuation (line : List Char) : Bool := line.head?.any isSpaceOrTab

/-- What a line of a mailbox file starts with that tells the sender of the message. -/
def senderMark : List Char := "From ".toList

/-- Whether a line is a sender line of a mailbox file. -/
def isSenderLine (line : List Char) : Bool := senderMark.isPrefixOf line

/-- Visible characters of ASCII except the colon: those of field names. -/
def isNameChar (c : Char) : Bool := (33 ≤ c.toNat && c.toNat ≤ 57) || (59 ≤ c.toNat && c.toNat ≤ 126)

/-- Whether a line starts a field: a name, which may be empty, and a colon. -/
def isFieldStart (line : List Char) : Bool := (line.dropWhile isNameChar).head? == some ':'

/-- Whether a line can stand in a header section. -/
def isHeaderLine (line : List Char) : Bool :=
  isSenderLine line || isFieldStart line || isContinuation line

/-! ### Sections -/

/-- A field: its name, and its value with all folds, without the white space before it and the line
ends after it. -/
structure Field where
  name : List Char
  value : List Char
  deriving Repr, DecidableEq

/-- What is wrong with a header section. -/
inductive Defect
  /-- A line that is no header line stands where the empty line should. -/
  | missingSeparator
  /-- The first line of the header goes on with a field that was never started. -/
  | leadingContinuation
  deriving Repr, DecidableEq

/-- The name of a defect in messages. -/
def Defect.name : Defect → String
  | missingSeparator => "MissingHeaderBodySeparatorDefect"
  | leadingContinuation => "FirstHeaderLineIsContinuationDefect"

/-- The field of a first line and the lines that go on with it. -/
def Field.ofLines (first : List Char) (rest : List (List Char)) : Field where
  name := first.takeWhile (· != ':')
  value := dropEndWhile isLineEnd
    (((first.dropWhile (· != ':')).drop 1).dropWhile isSpaceOrTab ++ rest.flatten)

/-- What the lines of a header section hold. -/
structure Gathered where
  fields : List Field := []
  defects : List Defect := []
  /-- Lines that belong to the body after all. -/
  returned : List (List Char) := []
  deriving Repr, DecidableEq

/-- Put a field in front, if one is open. -/
def Gathered.opening (g : Gathered) : Option (List Char × List (List Char)) → Gathered
  | none => g
  | some (first, rest) => { g with fields := Field.ofLines first rest :: g.fields }

/-- Gather the fields of header lines. `atStart` holds for the first line of all, and `current` is
the field that a line with white space in front goes on with. -/
def gather (atStart : Bool) (current : Option (List Char × List (List Char))) :
    List (List Char) → Gathered
  | [] => Gathered.opening {} current
  | line :: rest =>
    if isContinuation line then
      match current with
      | some (first, more) => gather false (some (first, more ++ [line])) rest
      | none =>
        let g := gather false none rest
        { g with defects := .leadingContinuation :: g.defects }
    else
      let after : Gathered :=
        if isSenderLine line then
          if !atStart && rest.isEmpty then { returned := [line] } else gather false none rest
        else if line.head? = some ':' then gather false none rest
        else gather false (some (line, [])) rest
      after.opening current

/-- A message in two parts: the fields of its header section and the lines of its body. -/
structure Section where
  fields : List Field
  body : List (List Char)
  defects : List Defect
  deriving Repr, DecidableEq

/-- Read the header section of a message given as lines. -/
def sectionOfLines (ls : List (List Char)) : Section :=
  let g := gather true none (ls.takeWhile isHeaderLine)
  match ls.dropWhile isHeaderLine with
  | [] => ⟨g.fields, g.returned, g.defects⟩
  | line :: rest =>
    if isEmptyLine line then ⟨g.fields, g.returned ++ rest, g.defects⟩
    else ⟨g.fields, g.returned ++ line :: rest, .missingSeparator :: g.defects⟩

/-- Read the header section of a message. -/
def readSection (raw : List Char) : Section := sectionOfLines (lines raw)

/-- The values of all fields of a name, in order; `name` is given in lower case. -/
def Section.values (s : Section) (name : String) : List (List Char) :=
  (s.fields.filter fun f => lowerName f == name.toList).map Field.value
where
  /-- The name of a field with its ASCII letters in lower case. -/
  lowerName (f : Field) : List Char := f.name.map Char.toLower

/-- The value of the first field of a name. -/
def Section.value? (s : Section) (name : String) : Option (List Char) := (s.values name).head?

/-! ### Raw messages -/

/-- One character for each byte, equal to that byte. -/
def byteChars (bs : List UInt8) : List Char := bs.map fun b => Char.ofNat b.toNat

/-- The text of a message that arrives as bytes. -/
def contentText (bs : List UInt8) : String :=
  (Utf8.decode? bs).getD (String.ofList (byteChars bs))

/-- A raw message. -/
inductive Raw
  | text (s : String)
  | bytes (bs : List UInt8)
  deriving Repr, DecidableEq

namespace Raw

/-- The characters of a message; a byte counts as one. -/
def chars : Raw → List Char
  | text s => s.toList
  | bytes bs => byteChars bs

/-- The meaning in header values of characters of the message. -/
def symbols : Raw → List Char → Header.Symbols
  | text _ => Header.Symbol.ofText
  | bytes _ => Header.Symbol.ofByteChars

/-- Whether these characters of the message are text: of a message that arrived as bytes, only ASCII
is. -/
def isText : Raw → List Char → Bool
  | text _, _ => true
  | bytes _, s => s.all fun c => c.toNat < 128

end Raw

/-- The value of the first field of a name on one line: without its line ends. -/
def Section.oneLine? (s : Section) (name : String) : Option (List Char) :=
  (s.value? name).map (·.filter (!Text.isLineEnd ·))

end DeliveryWatch.Message
