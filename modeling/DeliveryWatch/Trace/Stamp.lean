/-
The time stamp of a trace field: the last piece of a Received value that looks like a mail date.

* `form` — the form of a stamp, a row of pieces that no character can belong to two of;
* `lastStamp?` — the last stamp of a text; stamps are found from left to right, none overlapping
  another;
* `readTime` — the time of the last stamp, or the reason why there is none.
-/
import DeliveryWatch.Message.Unfold
import DeliveryWatch.Time.MailDate

namespace DeliveryWatch.Trace

open Text

/-- A piece of a written form. -/
inductive Piece
  /-- Exactly `n` characters of the class. -/
  | exactly (n : Nat) (p : Char → Bool)
  /-- As many characters of the class as there are, at least one. -/
  | run (p : Char → Bool)
  /-- One character of the class, if there is one. -/
  | optional (p : Char → Bool)
  /-- This character. -/
  | literal (c : Char)

namespace Piece

/-- Take the piece off the front of the text: what it takes, and the rest. -/
def take? : Piece → List Char → Option (List Char × List Char)
  | exactly n p, s =>
    let (head, rest) := s.splitAt n
    if head.length = n ∧ head.all p then some (head, rest) else none
  | run p, s =>
    match s.takeWhile p with
    | [] => none
    | head => some (head, s.dropWhile p)
  | optional p, s =>
    match s with
    | c :: r => if p c then some ([c], r) else some ([], s)
    | [] => some ([], [])
  | literal a, s =>
    match s with
    | c :: r => if c = a then some ([c], r) else none
    | [] => none

/-- Take pieces off the front of the text, one after the other. -/
def takeAll? : List Piece → List Char → Option (List Char × List Char)
  | [], s => some ([], s)
  | p :: ps, s => do
    let (head, rest) ← p.take? s
    let (heads, rest) ← takeAll? ps rest
    some (head ++ heads, rest)

end Piece

/-- Letters of ASCII and the underscore. -/
def isWordLetter (c : Char) : Bool :=
  ('a' ≤ c && c ≤ 'z') || ('A' ≤ c && c ≤ 'Z') || c == '_'

/-- Decimal digits of ASCII. -/
def isDigit (c : Char) : Bool := '0' ≤ c && c ≤ '9'

/-- Three letters and a comma, day, month, year, time of day and zone, with single spaces between
them. The sign of the zone may be missing. -/
def form : List Piece :=
  [.exactly 3 isWordLetter, .literal ',', .literal ' ', .run isDigit, .literal ' ',
   .run isWordLetter, .literal ' ', .run isDigit, .literal ' ', .run isDigit, .literal ':',
   .run isDigit, .literal ':', .run isDigit, .literal ' ', .optional fun c => c == '-' || c == '+',
   .run isDigit]

/-- The last stamp of a text; `last` is the last one found so far. Every stamp is searched for
behind the one before it, in at most `fuel` steps. -/
def lastStampFrom (last : Option (List Char)) : Nat → List Char → Option (List Char)
  | 0, _ => last
  | _ + 1, [] => last
  | fuel + 1, c :: r =>
    match Piece.takeAll? form (c :: r) with
    | some (stamp, rest) => lastStampFrom (some stamp) fuel rest
    | none => lastStampFrom last fuel r

/-- The last stamp of a text. -/
def lastStamp? (s : List Char) : Option (List Char) := lastStampFrom none s.length s

/-- Why a trace field has no time. -/
inductive Cause
  /-- No piece of the value looks like a date. -/
  | noStamp
  /-- The last piece that looks like a date is none. -/
  | badStamp (stamp : String) (why : DateFault)
  deriving Repr, DecidableEq

/-- A trace field has no time: its value as it was given, and the reason. -/
structure Fault where
  value : String
  cause : Cause
  deriving Repr, DecidableEq

/-- The account of the fault. -/
def Fault.message (f : Fault) : String :=
  match f.cause with
  | .noStamp => "Could not find RFC 2822 time"
  | .badStamp stamp why => "Invalid RFC 2822 time '" ++ stamp ++ "': " ++ why.reason

/-- The time of a trace field: that of the last stamp of the unfolded value, in UTC if its zone is
not known. -/
def readTime (value : String) : Except Fault Time :=
  match lastStamp? (Message.unfold value.toList) with
  | none => .error ⟨value, .noStamp⟩
  | some stamp =>
    let stamp := String.ofList stamp
    match MailDate.timeOf stamp with
    | .ok t => .ok t.orUtc
    | .error why => .error ⟨value, .badStamp stamp why⟩

end DeliveryWatch.Trace
