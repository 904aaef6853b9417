/-
The command that watches for mail: it makes the pipeline ready and opens the mail server, until it is
told to stop.

* `Event` — what the command does, one after another;
* `watch` — the command up to its end. A pipeline that cannot be made ready ends it before the server
  is opened.
-/
import DeliveryWatch.Command.Desk

namespace DeliveryWatch.Command

/-- A mail server as it is opened. -/
structure Listener where
  host : String
  port : Int
  /-- The name that the server gives itself. -/
  name : String
  /-- The greatest size of a message. -/
  maxSize : Int
  /-- Whether addresses need not be in ASCII. -/
  takesUnicode : Bool := true
  deriving Repr, DecidableEq

/-- What the command does. -/
inductive Event
  | setUpLog (level : String) (asJson : Bool)
  | prepare (l : Listener)
  | start
  | wait (seconds : Nat)
  | stop
  deriving Repr, DecidableEq

/-- How the command ends. -/
structure Watched where
  /-- Zero for success. -/
  exit : Nat := 0
  events : List Event
  log : List Log.Entry

namespace Watch

/-- The mail server by the settings. -/
def listener (s : Settings) : Listener where
  host := s.smtpHost
  port := s.smtpPort
  name := s.smtpDomain
  maxSize := s.smtpMaxSize

/-- The address of a database as it is shown: what stands in front of the last at sign is left out,
since it may hold a password. -/
def shownUrl (url : String) : String :=
  match Text.cutLast? ['@'] url.toList with
  | some (_, rest) => String.ofList rest
  | none => url

/-- Where the server listens. -/
def address (s : Settings) : String := s.smtpHost ++ ":" ++ Text.decimal s.smtpPort

/-- The first lines of the log. -/
def greeting (s : Settings) : List String :=
  ["=== MailProbe SMTP Server Starting ===", "SMTP Bind: " ++ address s,
   "SMTP Domain: " ++ s.smtpDomain, "Max Message Size: " ++ Text.decimal s.smtpMaxSize ++ " bytes",
   "Database: " ++ shownUrl s.databaseUrl, "Pipeline: " ++ s.plan.process]

variable {σ : Type}

/-- Write lines to the log. -/
def noteAll (lines : List String) (s : Scene σ) : Scene σ :=
  lines.foldl (fun s line => s.note .info line) s

/-- Assemble and activate the pipeline. The fault that is no reason to end in good order comes out
as such. -/
def activate (plan : Plan) (scene : Scene Premises) :
    Except Fault (Except String (Pipeline Premises)) × Scene Premises :=
  match assemble (shippedStages Premises.access Premises.now plan) plan with
  | .error f => (.ok (.error f.message), scene)
  | .ok p =>
    match p.activate (scene.note .info p.account) with
    | (.ok (), p, scene) => (.ok (.ok p), scene)
    | (.error (.pipeline text), _, scene) => (.ok (.error text), scene)
    | (.error f, _, scene) => (.error f, scene)

/-- How long the server waits at a time, in seconds. -/
def pause : Nat := 3600

/-- Open the server and close it again. -/
def serve (s : Settings) (p : Pipeline Premises) (scene : Scene Premises) :
    Except Fault (List Event) × Scene Premises :=
  let scene := noteAll ["SMTP server started on " ++ address s, "Press Ctrl+C to stop",
    "Shutting down SMTP server..."] scene
  match p.shutdown scene with
  | (.ok _, _, scene) =>
    (.ok [.prepare (listener s), .start, .wait pause, .stop], noteAll ["SMTP server stopped"] scene)
  | (.error f, _, scene) => (.error f, scene)

/-- The command with a database. -/
def run (s : Settings) (scene : Scene Premises) : Except Fault Watched × Scene Premises :=
  let setUp := Event.setUpLog s.logLevel s.logJson
  match activate s.plan (noteAll (greeting s) scene) with
  | (.error f, scene) => (.error f, scene)
  | (.ok (.error reason), scene) =>
    let scene := scene.note .error ("Pipeline could not be activated: " ++ reason)
    (.ok { exit := 1, events := [setUp], log := scene.log }, scene)
  | (.ok (.ok p), scene) =>
    match serve s p scene with
    | (.ok events, scene) => (.ok { events := setUp :: events, log := scene.log }, scene)
    | (.error f, scene) => (.error f, scene)

end Watch

/-- The command that watches for mail. -/
def watch (now : Time) (c : Configuration) (d : Desk) : Except Failure Watched × Desk :=
  match c with
  | .error problems => (.error (.settings problems), d)
  | .ok s =>
    match Database.Location.ofUrl? s.databaseUrl with
    | .error f => (.error (.location f), d)
    | .ok l =>
      let premises : Premises := ⟨d.shelf.database l, now⟩
      let (result, scene) := Watch.run s { resources := premises }
      (result.mapError .pipeline, { d with shelf := d.shelf.put l scene.resources.database })

end DeliveryWatch.Command
