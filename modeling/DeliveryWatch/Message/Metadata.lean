/-
What the header of a message tells of it: its id, sender, recipients, subject and date.

* `readMetadata raw` — reads the first field of each kind, in the form in which it is shown;
* `syntheticId` — the id of a message that brings none, made from the four other texts: the same for
  the same four.

Reading fails if a media type of the message or of one of its parts breaks down, or one of the five
fields does. A date that is none is shown as it stands; one with a number too large to compute with is
a fault.
-/
import DeliveryWatch.Bytes.Sha256
import DeliveryWatch.Bytes.Utf8
import DeliveryWatch.Header.Mailbox
import DeliveryWatch.Header.Unstructured
import DeliveryWatch.Message.Mime
import DeliveryWatch.Time.MailDate

namespace DeliveryWatch.Message

open Header

/-- The id of a message made from its sender, recipient, subject and date: half of the hash of the
four texts in a row. -/
def syntheticId (sender recipient subject date : String) : String :=
  let hash := Sha256.hex (Utf8.encode (sender ++ recipient ++ subject ++ date))
  "<synthetic-" ++ String.ofList (hash.toList.take 16) ++ "@mailprobe.generated>"

/-- What the header of a message tells of it. -/
structure Metadata where
  messageId : String
  /-- Whether the id was made up because the message has none. -/
  isSynthetic : Bool
  sender : Option String
  recipients : Option String
  subject : Option String
  date : Option String
  deriving Repr, DecidableEq

/-- Why the header of a message cannot be read. -/
inductive MetadataFault
  /-- A media type broke down. -/
  | mediaType (b : Breakdown)
  /-- A field broke down. -/
  | field (b : Breakdown)
  /-- The date has a number too large to compute with. -/
  | date (f : DateFault)
  deriving Repr, DecidableEq

/-- The account of the fault. -/
def MetadataFault.message : MetadataFault → String
  | mediaType b => "Invalid MIME message: " ++ b.message
  | field b => b.message
  | date f => f.message

/-- The date of a message: in the usual form if it is one. -/
def dateText (s : Symbols) : Except MetadataFault String :=
  match MailDate.timeOf (String.ofList (Symbol.plainChars s)) with
  | .ok t => .ok t.mailText
  | .error f => if f.isOverflow then .error (.date f) else .ok (toText s)

/-- The text of the first field of a name, if there is one. -/
def fieldText (raw : Raw) (s : Section) (name : String)
    (read : Symbols → Except MetadataFault String) : Except MetadataFault (Option String) :=
  match s.oneLine? name with
  | some v => some <$> read (raw.symbols v)
  | none => .ok none

/-- Read a value by the rules of its kind. -/
def shown (read : Symbols → Except Breakdown Symbols) (s : Symbols) : Except MetadataFault String :=
  match read s with
  | .ok text => .ok (toText text)
  | .error b => .error (.field b)

/-- Read the header of a message. -/
def readMetadata (raw : Raw) : Except MetadataFault Metadata := do
  (readParts raw).mapError .mediaType
  let s := readSection raw.chars
  let own ← fieldText raw s "message-id" (shown messageIdText)
  let sender ← fieldText raw s "from" (shown addressText)
  let recipients ← fieldText raw s "to" (shown addressText)
  let subject ← fieldText raw s "subject" (shown fun v => .ok (unstructured v))
  let date ← fieldText raw s "date" dateText
  let isSynthetic := own.all String.isEmpty
  let id := if isSynthetic then
      syntheticId (sender.getD "") (recipients.getD "") (subject.getD "") (date.getD "")
    else own.getD ""
  return ⟨id, isSynthetic, sender, recipients, subject, date⟩

end DeliveryWatch.Message
