/-
The parts of a message: a media type says whether a body is itself a message, or is made up of
several, between boundary lines.

* `parts` — the parts between boundary lines;
* `reports` — the blocks of a delivery status;
* `readParts` — reads the media types of a message and of all its parts, which may break down.
-/
import DeliveryWatch.Header.MediaType
import DeliveryWatch.Message.Section

namespace DeliveryWatch.Message

open Header

/-- Lines of a message. -/
abbrev Lines := List (List Char)

/-! ### Boundary lines -/

/-- What a boundary line says: that one more part follows, or none. -/
inductive Mark
  | next
  | last
  deriving Repr, DecidableEq

/-- Whether only white space and a line end are left. -/
def isBlankEnd (s : List Char) : Bool := (s.dropWhile Text.isSpaceOrTab).all Text.isLineEnd

/-- What a line says as a boundary line: it consists of two hyphens, the boundary, and two more
hyphens behind the last part. -/
def mark? (boundary line : List Char) : Option Mark :=
  (('-' :: '-' :: boundary).isPrefixOf? line).bind fun rest =>
    if isBlankEnd rest then some .next
    else match rest with
      | '-' :: '-' :: rest => if isBlankEnd rest then some .last else none
      | _ => none

/-- Cut lines at the boundary lines: the lines in front of the first, and each boundary line with
the lines behind it. -/
def cutAtMarks (mark? : List Char → Option Mark) : Lines → Lines × List (Mark × Lines)
  | [] => ([], [])
  | line :: rest =>
    let (front, cuts) := cutAtMarks mark? rest
    match mark? line with
    | some m => ([], (m, front) :: cuts)
    | none => (line :: front, cuts)

/-- The parts behind boundary lines. Several boundary lines in a row open one part; the last
boundary line ends the message, unless it stands in such a row. -/
def partsFrom (inRow : Bool) : List (Mark × Lines) → List Lines
  | [] => []
  | (m, ls) :: rest =>
    if !inRow && m == .last then []
    else if ls.isEmpty && !rest.isEmpty then partsFrom true rest
    else ls :: partsFrom false rest

/-- The parts of a multipart body. -/
def parts (boundary : List Char) (body : Lines) : List Lines :=
  partsFrom false (cutAtMarks (mark? boundary) body).2

/-- The blocks of a delivery status, which empty lines part. -/
def reports : Lines → List Lines
  | [] => [[]]
  | [line] => if isEmptyLine line then [[]] else [[line]]
  | line :: rest =>
    if isEmptyLine line then [] :: reports rest
    else match reports rest with
      | [] => [[line]]
      | block :: blocks => (line :: block) :: blocks

/-! ### All parts -/

/-- The type of text. -/
def plainType : String := "text/plain"

/-- The type of a whole message. -/
def messageType : String := "message/rfc822"

/-- The parts of a body of a media type, and the type of a part that names none. -/
def subparts (raw : Raw) (written : String) (body : Lines) : List Lines × String :=
  let type := essence written
  if type == "message/delivery-status" then (reports body, plainType)
  else if mainType type == "message" then ([body], plainType)
  else if mainType type == "multipart" then
    let default := if type == "multipart/digest" then messageType else plainType
    match boundary? written with
    | some b => (if raw.isText b then parts b body else [], default)
    | none => ([], default)
  else ([], plainType)

/-- Read the media types of a message and its parts, at most `n` messages deep; `default` is the
type of a message that names none. -/
def readPartsFrom (raw : Raw) : Nat → String → Lines → Except Breakdown Unit
  | 0, _, _ => .ok ()
  | n + 1, default, ls => do
    let s := sectionOfLines ls
    let written ← match s.oneLine? "content-type" with
      | some v => mediaTypeText (raw.symbols v)
      | none => pure default
    let (inner, default) := subparts raw written s.body
    inner.forM (readPartsFrom raw n default)

/-- Read the media types of a message and its parts. Each level but one of every two has a line of
its own, which bounds the depth. -/
def readParts (raw : Raw) : Except Breakdown Unit :=
  let ls := lines raw.chars
  readPartsFrom raw (2 * ls.length + 2) plainType ls

end DeliveryWatch.Message
