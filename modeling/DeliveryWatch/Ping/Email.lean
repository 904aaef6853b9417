/-
Probe mails: mails whose subject ends with a token, sent to learn how long their delivery takes.

* `Ping.token? subject` is the token, if the subject names one: the rest of the subject after some
  `guid:` is one single word, and the first such mark counts;
* `Email.fields` — the header fields in the order in which they are written;
* `Email.render` — the mail as text. A body in ASCII stands as it is, any other one is written in
  base64.
-/
import DeliveryWatch.Header.Written
import DeliveryWatch.Text.Basic

namespace DeliveryWatch.Ping

open Text

/-! ### Tokens -/

/-- The mark in front of a token. -/
def marker : List Char := "guid:".toList

/-- The token that follows the mark, if the rest of the subject is one word. -/
def onlyWord? (s : List Char) : Option (List Char) :=
  match words s with
  | [w] => some w
  | _ => none

/-- The token of a subject, given as characters. -/
def tokenIn? : List Char → Option (List Char)
  | [] => none
  | c :: r =>
    match (marker.isPrefixOf? (c :: r)).bind onlyWord? with
    | some w => some w
    | none => tokenIn? r

/-- The token of a subject; a missing subject has none. -/
def token? (subject : Option String) : Option String :=
  subject.bind fun s => (tokenIn? s.toList).map String.ofList

/-! ### Mails -/

/-- A probe mail. -/
structure Email where
  sender : String
  recipient : String
  token : String
  subjectPrefix : String := "Delivery check"
  /-- The body, unless it is the usual one. -/
  body : Option String := none
  deriving Repr, DecidableEq

/-- What a mail gets when it is sent: its date, and a name of its own. -/
structure Postmark where
  date : String
  messageId : String
  deriving Repr, DecidableEq

namespace Email

/-- The subject: the token follows its marker. -/
def subject (e : Email) : String := e.subjectPrefix ++ " guid: " ++ e.token

/-- The text of the body. -/
def bodyText (e : Email) : String :=
  e.body.getD ("MailProbe delivery check.\n\nGUID: " ++ e.token ++ "\n")

/-- Whether the body is in ASCII. -/
def isPlain (e : Email) : Bool := e.bodyText.toList.all (·.toNat < 128)

/-- The header fields. -/
def fields (e : Email) (mark : Postmark) : List (String × String) :=
  [("Content-Type", "text/plain; charset=\"" ++ (if e.isPlain then "us-ascii" else "utf-8") ++ "\""),
   ("MIME-Version", "1.0"),
   ("Content-Transfer-Encoding", if e.isPlain then "7bit" else "base64"),
   ("From", e.sender), ("To", e.recipient), ("Subject", e.subject), ("Date", mark.date),
   ("Message-ID", mark.messageId)]

/-- A header field on its line. -/
def writeField (f : String × String) : Except Header.EmbeddedField String := do
  return f.1 ++ ": " ++ (← Header.written? f.2) ++ "\n"

/-- How many bytes a line of base64 holds. -/
def lineBytes : Nat := 57

/-- Bytes in base64, at most `n` lines. -/
def base64Lines : Nat → List UInt8 → List Char
  | 0, _ => []
  | n + 1, bs =>
    if bs.isEmpty then []
    else Base64.encode (bs.take lineBytes) ++ '\n' :: base64Lines n (bs.drop lineBytes)

/-- The body as it is written. -/
def writtenBody (e : Email) : String :=
  if e.isPlain then String.ofList (lineFeeds e.bodyText.toList)
  else
    let bytes := Utf8.encode e.bodyText
    String.ofList (base64Lines bytes.length bytes)

/-- The mail as text. -/
def render (e : Email) (mark : Postmark) : Except Header.EmbeddedField String := do
  let lines ← (e.fields mark).mapM writeField
  return String.join lines ++ "\n" ++ e.writtenBody

end Email

end DeliveryWatch.Ping
