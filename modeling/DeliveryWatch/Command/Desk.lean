/-
What commands work with: a mail server, the databases, and the tokens that were made up so far.

* `Smtp.Call` — what a mail server that takes a mail for delivery is asked for;
* `Smtp.attempt` makes calls in order, up to the first that fails;
* `Desk.newToken` — a token that was not made up before;
* `Failure` — why a command breaks off.
-/
import DeliveryWatch.Database.Shelf
import DeliveryWatch.Header.Written
import DeliveryWatch.Json.Printer
import DeliveryWatch.Settings.Basic

namespace DeliveryWatch.Smtp

/-- A call to a mail server. -/
inductive Call
  | connect (host : String) (port : Int)
  /-- Go on under encryption. -/
  | startTls
  | login (user password : String)
  | send (text : String)
  | quit
  deriving Repr, DecidableEq

/-- Why a call fails. -/
inductive CallFault
  /-- An error of the system: its number, its text, and the file that it is about. -/
  | system (number text : Json) (file : Option Json)
  /-- Anything else that the server or the connection has to say. -/
  | said (values : List Json)

/-- The account of the fault. -/
def CallFault.message : CallFault → String
  | system number text file =>
    "[Errno " ++ number.display ++ "] " ++ text.display ++
      (file.map fun f => ": " ++ f.literal).getD ""
  | said [v] => v.display
  | said [] => ""
  | said vs => "(" ++ Json.literalItems vs ++ ")"

/-- A mail server that answers each call with success or a fault. -/
abbrev Server := Call → Option CallFault

/-- Make calls in order, up to the first that fails: the calls made, and the fault. -/
def attempt (server : Server) : List Call → List Call × Option CallFault
  | [] => ([], none)
  | c :: rest =>
    match server c with
    | some f => ([c], some f)
    | none =>
      let (made, fault) := attempt server rest
      (c :: made, fault)

end DeliveryWatch.Smtp

namespace DeliveryWatch.Command

/-- What commands share. -/
structure Desk where
  shelf : Database.Shelf := {}
  /-- How many tokens were made up. -/
  tokens : Nat := 0

/-- A new token: the next number. -/
def Desk.newToken (d : Desk) : String × Desk :=
  (QueueId.ofNumber (d.tokens + 1), { d with tokens := d.tokens + 1 })

/-- Why a command breaks off. -/
inductive Failure
  | settings (problems : List (String × Settings.Problem))
  | location (f : Database.LocationFault)
  | name (f : Database.NameFault)
  | database (f : Database.Fault)
  | email (f : Header.EmbeddedField)
  | pipeline (f : Fault)
  deriving Repr, DecidableEq

/-- The account of the failure. -/
def Failure.message : Failure → String
  | settings problems =>
    String.intercalate "\n" (problems.map fun (setting, p) => setting ++ ": " ++ p.name)
  | location .malformed => "The address of the database is malformed"
  | location .unknownKind => "The kind of database is unknown"
  | name f => f.message
  | database f => f.message
  | email f => f.message
  | pipeline f => f.message

/-- The settings that commands go by, or what is wrong with them. -/
abbrev Configuration := Except (List (String × Settings.Problem)) Settings

end DeliveryWatch.Command
