/-
The trace of a message: its Received fields, their times, and the delay between the earliest and the latest.

* `Reading` — a time as a wall clock shows it. Its zone may be ahead of UTC by another distance at another
  time; `Reading.instant` is its place on the axis of UTC;
* `Reading.since` — the distance of two readings. Two of the same zone are told apart by what their clocks
  show, any others by their instants;
* `sortTimes` — times in this order; those with and without zone cannot be compared;
* `wholeSeconds` — whole seconds of a distance in microseconds, after rounding the seconds to a
  binary fraction of 53 bits;
* `delay` — whole seconds from the first to the last;
* `receivedValues raw`, `receivedTimes raw` — the values of the Received fields in order, and the times of
  those that have one; the others are passed over.

Readings of one zone whose distance to UTC has changed between them need have no order at all together with
readings of other zones. The place of each is then left to the way in which they are sorted.
-/
import DeliveryWatch.Message.Section
import DeliveryWatch.Trace.Stamp

namespace DeliveryWatch.Trace

/-! ### Readings of clocks -/

/-- Zones by their names: how far the wall clock is ahead of UTC, in microseconds. It depends on what the
clock shows and, for a time that it shows twice, on which of the two is meant. -/
abbrev Zones (ι : Type) := ι → Int → Bool → Int

/-- A time as a wall clock shows it, in microseconds; `zone` is `none` for a zone that is not known. -/
structure Reading (ι : Type) where
  wall : Int
  /-- Whether this is the second time that the clock shows it. -/
  isSecond : Bool := false
  zone : Option ι := none
  deriving Repr, DecidableEq

namespace Reading

variable {ι : Type} (z : Zones ι)

/-- Whether the zone is known. -/
def isZoned (t : Reading ι) : Bool := t.zone.isSome

/-- How far the clock is ahead of UTC. -/
def ahead (t : Reading ι) : Int := (t.zone.map fun i => z i t.wall t.isSecond).getD 0

/-- Microseconds on the axis of UTC; a reading without zone is read as if its zone were UTC. -/
def instant (t : Reading ι) : Int := t.wall - t.ahead z

/-- Microseconds from `b` to `a`. -/
def since [DecidableEq ι] (a b : Reading ι) : Int :=
  if a.zone = b.zone then a.wall - b.wall else a.instant z - b.instant z

end Reading

/-- Zones that are named by their distance to UTC in seconds, which never changes. -/
def fixedZones : Zones Int := fun offset _ _ => offset * 1000000

/-- A time as the clock of its zone shows it. -/
def readingOf (t : Time) : Reading Int where
  wall := t.wallSeconds * 1000000 + t.microsecond
  zone := t.offset

/-! ### Times in order -/

/-- A list of times holds times with and without zone, which have no order. -/
inductive OrderFault
  | mixedZones
  deriving Repr, DecidableEq

section Order

variable {ι α : Type} [DecidableEq ι] (z : Zones ι) (reading : α → Reading ι)

/-- Whether the times can be compared: all have a zone, or none has. -/
def comparable (times : List (Reading ι)) : Bool :=
  times.all Reading.isZoned || times.all (!·.isZoned)

/-- The times by their readings, the earliest first. -/
def inOrder (times : List α) : List α :=
  times.mergeSort fun a b => (reading a).since z (reading b) ≤ 0

/-- The times in order, if they can be compared. -/
def sortTimes (times : List α) : Except OrderFault (List α) :=
  if comparable (times.map reading) then .ok (inOrder z reading times) else .error .mixedZones

end Order

/-! ### The delay -/

/-- The quotient, rounded to the nearest whole number; of two equally near the even one. -/
def nearestQuotient (a b : Nat) : Nat :=
  let q := a / b
  let r := a % b
  if 2 * r < b then q else if b < 2 * r then q + 1 else if q % 2 = 0 then q else q + 1

/-- Whole seconds of a distance in microseconds. The seconds are first rounded to 53 binary digits,
which from `2 ^ 34` seconds on can carry a fraction up to the next second. -/
def wholeSeconds (microseconds : Nat) : Nat :=
  let scale := Nat.pow 2 (52 - Nat.log2 (microseconds / 1000000))
  nearestQuotient (microseconds * scale) 1000000 / scale

/-- Whole seconds between the earliest and the latest time; none or one make 0. -/
def delay {ι : Type} [DecidableEq ι] (z : Zones ι) (times : List (Reading ι)) :
    Except OrderFault Nat := do
  let sorted ← sortTimes z id times
  match sorted, sorted.getLast? with
  | first :: _, some last => return wholeSeconds (last.since z first).toNat
  | _, _ => return 0

/-! ### Received fields -/

/-- The values of the Received fields of a message. -/
def receivedValues (raw : String) : List String :=
  ((Message.readSection raw.toList).values "received").map String.ofList

/-- The times of the Received fields of a message. -/
def receivedTimes (raw : String) : List Time :=
  (receivedValues raw).filterMap fun v => (readTime v).toOption

/-- The delay of a message: whole seconds between the first and the last of its trace times. -/
def messageDelay (raw : String) : Except OrderFault Nat :=
  delay fixedZones ((receivedTimes raw).map readingOf)

end DeliveryWatch.Trace
