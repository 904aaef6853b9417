/-
The stage that keeps mail: one row of the mail table for each message that is not to be ignored.

* `MailTable.create` makes the table and its index in a database that has no table of its name;
* `MailTable.insert` adds the row of an envelope;
* `Stage.mailBox` — the stage. A message that the database does not take is answered by a temporary
  failure, so that its sender tries again.
-/
import DeliveryWatch.Database.Table
import DeliveryWatch.Message.Split
import DeliveryWatch.Pipeline.Stage

namespace DeliveryWatch

open Database

namespace MailTable

/-- The name of the mail table. -/
def name : String := "mail"

/-- The name of its index on the queue id. -/
def indexName : String := "ix_mail_queued_id"

/-- The mail table without its index. -/
def empty : Table where
  name := name
  columns :=
    [{ name := "id", type := "INTEGER", nullable := false, isKey := true },
     { name := "queued_id", type := "VARCHAR(64)", nullable := false },
     { name := "message_id", type := "TEXT" }, { name := "mail_from", type := "TEXT" },
     { name := "rcpt_to", type := "TEXT" }, { name := "subject", type := "TEXT" },
     { name := "remote_ip", type := "VARCHAR(64)" }, { name := "helo", type := "TEXT" },
     { name := "delivery_header", type := "TEXT" },
     { name := "data", type := "TEXT", nullable := false },
     { name := "created_at", type := "DATETIME", nullable := false }]

/-- Make the mail table and then its index, if the database has no table of the name. -/
def create (db : Database) : Except Database.Fault Unit × Database :=
  if (db.table? name).isSome then (.ok (), db)
  else match db.create empty with
    | .error f => (.error f, db)
    | .ok made =>
      if db.isTaken indexName then (.error .operational, made)
      else (.ok (), made.put { empty with indexes := [indexName] })

/-- The cells of the row of an envelope; the id of the message is given as a cell. -/
def cells (e : Envelope) (messageId : Value) : List (String × Value) :=
  [("queued_id", .ofText? e.queueId), ("message_id", messageId),
   ("mail_from", .ofText? e.sender), ("rcpt_to", .text (String.intercalate ", " e.recipients)),
   ("subject", .ofText? e.subject), ("remote_ip", .ofText? e.remoteAddress),
   ("helo", .ofText? e.greeting), ("delivery_header", .text (Message.headerBlock e.data)),
   ("data", .text e.data), ("created_at", .text "")]

/-- Add the row of an envelope. -/
def insert (db : Database) (e : Envelope) : Except Database.Fault Database := do
  let t ← db.demand name
  t.checkColumns ((cells e .null).map (·.1))
  match Value.ofJson? ((e.note? Envelope.messageIdKey).getD .null) with
  | some id => db.insert name (cells e id)
  | none => .error .unbindable

end MailTable

namespace Stage

variable {σ : Type}

/-- The name of the mail box. -/
def mailBoxName : String := "MailStore"

/-- Make the mail table if there is none. -/
def activateMailBox (access : Access σ) (s : Scene σ) : Except Fault Unit × Scene σ :=
  match MailTable.create (access.get s.resources) with
  | (.ok (), db) => (.ok (), { s with resources := access.put db s.resources })
  | (.error f, db) =>
    (.error (.activation ("Cannot create mail table: " ++ f.message) mailBoxName),
      { s with resources := access.put db s.resources })

/-- Keep a message, unless it is to be ignored. -/
def keep (access : Access σ) (e : Envelope) (s : Scene σ) : Except Fault Reply × Scene σ :=
  let id := e.queueId.getD "None"
  if e.isIgnored then
    (.ok (Reply.accepted e.queueId),
      (s.note .info ("Not storing message " ++ id ++ ", marked as ignored")).countStoring .ignored)
  else match MailTable.insert (access.get s.resources) e with
    | .ok db =>
      (.ok (Reply.accepted e.queueId),
        ({ s with resources := access.put db s.resources }.countStoring .stored).note .info
          ("Stored message " ++ id))
    | .error f =>
      if f.isReported then
        (.ok (.temporary "Storage error"),
          (s.note .error ("Failed to store message " ++ id ++ ": " ++ f.message)).countStoring .error)
      else (.error .tooLarge, s)

/-- The stage that keeps mail in a database; `createsTable` tells whether its activation makes the
table. -/
def mailBox (access : Access σ) (createsTable : Bool := true) : Stage σ where
  name := mailBoxName
  activate s := if createsTable then activateMailBox access s else (.ok (), s)
  process task e s :=
    match task with
    | .saveMail =>
      let (result, s) := keep access e s
      (result, e, s)
    | .checkRecipient => (.ok (Reply.accepted e.queueId), e, s)

end Stage

end DeliveryWatch
