/-
Mail transactions: the commands that name a recipient and that send a message.

* `Answer` — a line, a fault, or silence: the pipeline runs in a thread of its own, and a fault that the
  thread cannot hand over leaves the command waiting;
* `Transaction.recipient` runs the pipeline to check a recipient; the address is kept only if the
  pipeline lets it pass;
* `Transaction.data` runs the pipeline on a message for all recipients kept so far. Unless it waits for
  ever, no envelope is current afterwards.
-/
import DeliveryWatch.Message.Section
import DeliveryWatch.Pipeline.Run

namespace DeliveryWatch.Smtp

/-- One mail transaction as far as it has come. Both fields may be missing. -/
structure Transaction where
  sender : Option String := none
  recipients : Option (List String) := some []
  deriving Repr, DecidableEq

/-- What is known of the sending host. -/
structure Client where
  address : Option String := none
  /-- The name that the host gave itself. -/
  greeting : Option String := none
  deriving Repr, DecidableEq

/-- What becomes of a command. -/
inductive Answer
  | line (text : String)
  /-- The command fails. -/
  | fault (f : Fault)
  /-- The command waits for ever. -/
  | silence
  deriving Repr, DecidableEq

/-- A reply when a pipeline fails in a way that nobody expects. -/
def serverError : String := "451 Temporary server error"

/-- A transaction without a list of recipients cannot take one. -/
def noList : Fault := .other "AttributeError" "'NoneType' object has no attribute 'append'"

variable {σ : Type}

namespace Transaction

/-- The envelope that stands for a recipient to be checked. -/
def probe (t : Transaction) (address : String) (queueId : String) : Envelope :=
  { sender := some (t.sender.getD ""), recipients := [address], queueId := some queueId }

/-- Answer a command whose run ended with a fault: with a line, and an account of the fault in the log, if
the fault arrives and is no interrupt. -/
def answerFault (account : String) (f : Fault) (o : Office σ) : Answer × Office σ :=
  match f.handedOver with
  | none => (.silence, o)
  | some f =>
    if f.isInterrupt then (.fault f, o)
    else (.line serverError, o.note .error (account ++ ": " ++ f.message))

/-- Name a recipient. -/
def recipient (t : Transaction) (p : Pipeline σ) (address queueId : String) (o : Office σ) :
    Answer × Transaction × Office σ :=
  match p.process .checkRecipient (t.probe address queueId) o with
  | (.error f, _, o) =>
    let (answer, o) := answerFault ("Recipient validation failed for " ++ address) f o
    (answer, t, o)
  | (.ok reply, _, o) =>
    if reply.isOk then
      match t.recipients with
      | some rs => (.line "250 OK", { t with recipients := some (rs ++ [address]) }, o)
      | none => (.fault noList, t, o)
    else
      let account := "Recipient " ++ address ++ " rejected: " ++ reply.line
      (.line reply.line, t, o.note .warning account)

/-- The text of a message as it came in. -/
def messageText : Option Message.Raw → String
  | none => ""
  | some (.text s) => s
  | some (.bytes bs) => Message.contentText bs

/-- The envelope of a message. -/
def envelope (t : Transaction) (content : Option Message.Raw) (client : Client)
    (queueId : String) : Envelope where
  data := messageText content
  sender := some (t.sender.getD "")
  recipients := t.recipients.getD []
  remoteAddress := some (client.address.getD "")
  greeting := some (client.greeting.getD "")
  queueId := some queueId

/-- Run the pipeline on a message. -/
def deliver (p : Pipeline σ) (e : Envelope) (queueId : String) (o : Office σ) :
    Answer × Office σ :=
  let account := "Received email: from=" ++ e.sender.getD "" ++ ", to=" ++
    String.intercalate "," e.recipients ++ ", size=" ++ Text.decimal e.data.length ++ " chars"
  match p.process .saveMail e (o.note .info account) with
  | (.ok reply, _, o) =>
    (.line reply.line, o.note .info ("Pipeline result for " ++ queueId ++ ": " ++ reply.line))
  | (.error f, _, o) => answerFault ("Unexpected error processing email " ++ queueId) f o

/-- Make an envelope current, or none. -/
def setCurrent (o : Office σ) (id : Option String) : Office σ :=
  { o with scene := { o.scene with current := id } }

/-- Send a message. -/
def data (t : Transaction) (p : Pipeline σ) (content : Option Message.Raw) (client : Client)
    (queueId : String) (o : Office σ) : Answer × Office σ :=
  let o := setCurrent o (some queueId)
  let (answer, o) :=
    if (t.recipients.getD []).isEmpty then
      (.line "554 No valid recipients", o.note .warning "Email received with no recipients")
    else deliver p (t.envelope content client queueId) queueId o
  (answer, if answer = .silence then o else setCurrent o none)

end Transaction

end DeliveryWatch.Smtp
