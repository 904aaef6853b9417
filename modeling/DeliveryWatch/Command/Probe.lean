/-
The command that sends a probe mail: it records a ping, and sends or prints the mail.

* `record` — the ping in the configured table, which is created first if that is asked for;
* `deliver` — the mail, printed or handed to a mail server;
* `probe` — the whole command. A mail is delivered only if its ping was recorded, unless no record is
  asked for.
-/
import DeliveryWatch.Command.Desk
import DeliveryWatch.Command.Order

namespace DeliveryWatch.Command

/-- What a command prints. -/
inductive Printed
  | nothing
  | usage
  | text (s : String)
  deriving Repr, DecidableEq

/-- How a command ends. -/
structure Outcome where
  /-- Zero for success. -/
  exit : Nat := 0
  printed : Printed := .nothing
  /-- Notes to the user, apart from what is printed. -/
  notes : List String := []
  /-- The calls to the mail server. -/
  calls : List Smtp.Call := []
  failure : Option Failure := none
  deriving Repr, DecidableEq

namespace Probe

/-- The name of the command in its notes. -/
def commandName : String := "send_ping.py"

/-- The settings, and where their database is. -/
def storage (c : Configuration) : Except Failure (Settings × Database.Location) := do
  let s ← c.mapError .settings
  let l ← (Database.Location.ofUrl? s.databaseUrl).mapError .location
  return (s, l)

/-- The table of pings by the settings, and where its database is. -/
def place (c : Configuration) : Except Failure (Ledger.PingTable × Database.Location) := do
  let (s, l) ← storage c
  let t ← (Ledger.PingTable.describe? (some s.plan.table) (some s.plan.field)).mapError .name
  return (t, l)

/-- Add the ping of a token. The table stays even if the ping cannot be added. -/
def addPing (creates : Bool) (t : Ledger.PingTable) (token : String) (db : Database) :
    Except Database.Fault Unit × Database :=
  match if creates then t.create db else .ok db with
  | .error f => (.error f, db)
  | .ok db =>
    match t.add token db with
    | .error f => (.error f, db)
    | .ok db => (.ok (), db)

/-- Record the ping of a token; the answer is a note on it. -/
def record (c : Configuration) (creates : Bool) (token : String) (shelf : Database.Shelf) :
    Except Failure String × Database.Shelf :=
  match place c with
  | .error f => (.error f, shelf)
  | .ok (t, l) =>
    let (result, db) := addPing creates t token (shelf.database l)
    let note := "Recorded ping " ++ token ++ " in " ++ t.name
    ((result.mapError .database).map fun _ => note, shelf.put l db)

/-- The calls that come before the mail itself. -/
def opening (o : Order) : List Smtp.Call :=
  let login : List Smtp.Call :=
    match o.user, o.password with
    | some u, some p => if u.isEmpty || p.isEmpty then [] else [.login u p]
    | _, _ => []
  .connect o.host o.port :: (if o.tls then [.startTls] else []) ++ login

/-- How a mail that a server refuses ends. -/
def refused (calls : List Smtp.Call) (f : Smtp.CallFault) : Outcome :=
  { exit := 1, notes := ["ERROR sending email: " ++ f.message], calls := calls }

/-- Hand a mail to a mail server. -/
def send (server : Smtp.Server) (o : Order) (mail : Except Header.EmbeddedField String) : Outcome :=
  match Smtp.attempt server (opening o) with
  | (calls, some f) => refused calls f
  | (calls, none) =>
    match mail with
    | .error f => { exit := 1, calls := calls, failure := some (.email f) }
    | .ok text =>
      match Smtp.attempt server [.send text, .quit] with
      | (more, some f) => refused (calls ++ more) f
      | (more, none) =>
        { calls := calls ++ more
          notes := ["Email sent successfully to " ++ o.recipient.getD "" ++ " via " ++ o.host ++ ":" ++
            Text.decimal o.port] }

/-- Deliver a mail as it is asked for. -/
def deliver (server : Smtp.Server) (o : Order) (mail : Except Header.EmbeddedField String) :
    Outcome :=
  if o.sends then send server o mail
  else match mail with
    | .ok text => { printed := .text text }
    | .error f => { exit := 1, failure := some (.email f) }

/-- The token of a mail: the one that is given, if it is not empty. -/
def tokenFor (o : Order) (d : Desk) : String × Desk :=
  match o.token with
  | some t => if t.isEmpty then d.newToken else (t, d)
  | none => d.newToken

/-- Follow an order. -/
def fulfil (mark : Ping.Postmark) (c : Configuration) (server : Smtp.Server) (o : Order) (d : Desk) :
    Outcome × Desk :=
  let (token, d) := tokenFor o d
  let mail := (o.email token).render mark
  if !o.records then (deliver server o mail, d)
  else match record c o.createsTable token d.shelf with
    | (.error f, shelf) => ({ exit := 1, failure := some f }, { d with shelf := shelf })
    | (.ok note, shelf) =>
      let outcome := deliver server o mail
      ({ outcome with notes := note :: outcome.notes }, { d with shelf := shelf })

end Probe

/-- The command that sends a probe mail. -/
def probe (mark : Ping.Postmark) (c : Configuration) (server : Smtp.Server)
    (arguments : List String) (d : Desk) : Outcome × Desk :=
  match Order.ofArguments arguments with
  | .usage => ({ printed := .usage }, d)
  | .fault f => ({ exit := 2, notes := [Probe.commandName ++ ": error: " ++ f.message] }, d)
  | .order o => Probe.fulfil mark c server o d

end DeliveryWatch.Command
