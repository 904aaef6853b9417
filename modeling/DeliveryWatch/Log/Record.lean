/-
Records of the log, the lines they are written on, and which of them are written.

* `Record.mark` — the record with the id of the envelope being processed;
* `Record.jsonLine` — the record as a JSON object on one line of ASCII;
* `Record.plainLine` — the record as plain text;
* `Output.ofName?` — the output for a configured level;
* `Output.writes` — whether a record of a logger and a level is written. Some loggers are quiet: they
  have a level of their own, which their subordinate loggers share (`quietLoggers`);
* `Output.lines` — the lines of a record, marked with the id of the envelope being processed.
-/
import DeliveryWatch.Json.Printer
import DeliveryWatch.Log.Entry
import DeliveryWatch.Text.Basic
import DeliveryWatch.Text.Case

namespace DeliveryWatch.Log

/-! ### Records -/

/-- The fault that a record tells of. -/
structure Cause where
  kind : String
  text : String
  deriving Repr, DecidableEq

/-- The account of a fault: its kind, and its text if it has one. -/
def Cause.account (c : Cause) : String := if c.text.isEmpty then c.kind else c.kind ++ ": " ++ c.text

/-- A record of the log. -/
structure Record where
  level : Level
  logger : String
  text : String
  /-- The function that wrote the record. -/
  function : Option String := none
  /-- The id that the record is marked with. -/
  envelopeId : Option String := none
  cause : Option Cause := none
  /-- The token of the ping that the record is about. -/
  guid : Option Json := none
  /-- The stage that the record is about. -/
  stage : Option Json := none

namespace Record

/-- Mark a record with the id of the envelope being processed. -/
def mark (current : Option String) (r : Record) : Record :=
  { r with envelopeId := some (QueueId.shown current) }

/-- The id that the lines of a record show. -/
def shownId (r : Record) : String := r.envelopeId.getD QueueId.absent

/-- A field, if there is a value for it. -/
def optional (name : String) (v : Option Json) : List (String × Json) :=
  match v with
  | some v => [(name, v)]
  | none => []

/-- The fields of a record at a time. -/
def fields (r : Record) (stamp : String) : List (String × Json) :=
  [("timestamp", .str stamp), ("level", .str r.level.name),
   ("envelope_id", .str r.shownId), ("logger", .str r.logger),
   ("function", .ofString? r.function), ("message", .str r.text)] ++
  optional "error" (r.cause.map fun c => .str c.text) ++
  optional "traceback" (r.cause.map fun c => .str c.account) ++
  optional "guid" r.guid ++ optional "stage" r.stage

/-- The record as a JSON object on one line. -/
def jsonLine (r : Record) (stamp : String) : String := (Json.obj (r.fields stamp)).render

/-- The record as plain text; a message of several lines takes as many. -/
def plainLine (r : Record) (stamp : String) : String :=
  String.intercalate " - " [stamp, r.level.name, r.shownId, r.logger, r.text]

end Record

/-! ### Outputs -/

/-- The output of the log. -/
structure Output where
  level : Level := .info
  /-- Whether records are written as JSON. -/
  asJson : Bool := true
  deriving Repr, DecidableEq

/-- Loggers that write warnings and what is graver, whatever the level of the output. -/
def quietLoggers : List String := ["sqlalchemy", "mail.log"]

/-- Whether a logger is another one or below it: names are parted by points. -/
def isWithin (above logger : String) : Bool :=
  logger == above || (above.toList ++ ['.']).isPrefixOf logger.toList

namespace Output

/-- The output for the name of a level; the case of letters does not matter. -/
def ofName? (level : String) (asJson : Bool := true) : Option Output :=
  (Level.ofName? (String.ofList (Text.upper level.toList))).map fun l => ⟨l, asJson⟩

/-- The least severity that a logger writes. -/
def threshold (o : Output) (logger : String) : Nat :=
  if quietLoggers.any (isWithin · logger) then Level.warning.severity else o.level.severity

/-- Whether a record is written. A record without a level never is. -/
def writes (o : Output) (r : Record) : Bool :=
  r.level != .unset && o.threshold r.logger ≤ r.level.severity &&
    o.level.severity ≤ r.level.severity

/-- The lines of a record at a time, `current` being the id of the envelope being processed. -/
def lines (o : Output) (stamp : String) (current : Option String) (r : Record) : List String :=
  let r := r.mark current
  if !o.writes r then []
  else if o.asJson then [r.jsonLine stamp]
  else (Text.splitLines (r.plainLine stamp).toList).map String.ofList

end Output

end DeliveryWatch.Log
