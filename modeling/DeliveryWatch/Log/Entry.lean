/-
Entries of the log: a level, a text, and the id of the envelope being processed.

* `QueueId.ofNumber n` — the id of a message from its arrival on, in replies, in the mail table and in
  log lines: 32 hexadecimal digits, different for different numbers below `16 ^ 32`;
* `QueueId.shown current` — the id that log lines carry, with a word in its place when no message is
  being processed;
* `Level.severity` orders the levels;
* `Level.name` is the name that log lines show.
-/
import DeliveryWatch.Text.Digit

namespace DeliveryWatch.QueueId

/-- How many digits an id has. -/
def digits : Nat := 32

/-- The id of a number. -/
def ofNumber (n : Nat) : String := Text.hexFilled digits (n % Nat.pow 16 digits)

/-- Whether a text has the form of an id. -/
def isId (s : String) : Bool :=
  s.length == digits && s.toList.all fun c => ('0' ≤ c && c ≤ '9') || ('a' ≤ c && c ≤ 'f')

/-- What log lines carry when no message is being processed. -/
def absent : String := "no-envelope-id"

/-- The id that log lines carry. -/
def shown (current : Option String) : String :=
  match current with
  | some id => if id.isEmpty then absent else id
  | none => absent

end DeliveryWatch.QueueId

namespace DeliveryWatch.Log

/-- How grave an entry is. -/
inductive Level
  | unset
  | debug
  | info
  | warning
  | error
  | critical
  deriving Repr, DecidableEq

namespace Level

/-- The number of a level; graver levels have greater numbers. -/
def severity : Level → Nat
  | unset => 0
  | debug => 10
  | info => 20
  | warning => 30
  | error => 40
  | critical => 50

/-- The name that log lines show. -/
def name : Level → String
  | unset => "NOTSET"
  | debug => "DEBUG"
  | info => "INFO"
  | warning => "WARNING"
  | error => "ERROR"
  | critical => "CRITICAL"

/-- The level of a name; two of them have a second name. -/
def ofName? : String → Option Level
  | "NOTSET" => some unset
  | "DEBUG" => some debug
  | "INFO" => some info
  | "WARNING" | "WARN" => some warning
  | "ERROR" => some error
  | "CRITICAL" | "FATAL" => some critical
  | _ => none

end Level

/-- An entry of the log. -/
structure Entry where
  level : Level
  text : String
  /-- The id of the envelope being processed. -/
  envelopeId : Option String := none
  deriving Repr, DecidableEq

end DeliveryWatch.Log
