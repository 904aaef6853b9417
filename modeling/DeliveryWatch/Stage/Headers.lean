/-
The stage that reads the header: it fills in the subject of an envelope and the id of its message.

* `Stage.headers` — a message whose header cannot be read goes on as it came, without a subject of
  its own; the fault is logged.
-/
import DeliveryWatch.Message.Metadata
import DeliveryWatch.Pipeline.Stage

namespace DeliveryWatch.Stage

open Message

variable {σ : Type}

/-- Log why a header cannot be read. -/
def noteUnreadable (f : MetadataFault) (s : Scene σ) : Scene σ :=
  let s := match f with
    | .mediaType b => s.note .error ("Failed to parse MIME message: " ++ b.message)
    | _ => s
  s.note .error ("Failed to parse message headers: " ++ f.message)

/-- Put what the header tells into the envelope. -/
def fillIn (m : Metadata) (e : Envelope) : Envelope :=
  { e with subject := some (m.subject.getD "") }.annotate Envelope.messageIdKey (.str m.messageId)

/-- Read the header of a message into its envelope. -/
def readHeaders (e : Envelope) (s : Scene σ) : Envelope × Scene σ :=
  match readMetadata (.text e.data) with
  | .error f => (e, noteUnreadable f s)
  | .ok m =>
    let account := "Email missing Message-ID, generated synthetic: " ++ m.messageId
    (fillIn m e, if m.isSynthetic then s.note .warning account else s)

/-- The stage that reads the header of mail that is to be saved. -/
def headers : Stage σ where
  name := "HeadersParser"
  process task e s :=
    match task with
    | .saveMail =>
      let (e, s) := readHeaders e s
      (.ok (Reply.accepted e.queueId), e, s)
    | .checkRecipient => (.ok (Reply.accepted e.queueId), e, s)

end DeliveryWatch.Stage
