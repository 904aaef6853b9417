/-
The stage that matches mail with pings: mail whose subject names no ping that still waits is marked
to be ignored, and the delivery of any other is written to its ping.

* `Stage.filter` — the decision, and what follows from it;
* `Stage.tokenFilter` — the stage over any store of pings.

A failed lookup counts as no ping. A delivery that cannot be written back is counted and logged, and
the mail is kept.
-/
import DeliveryWatch.Ledger.Store
import DeliveryWatch.Message.Split
import DeliveryWatch.Ping.Email
import DeliveryWatch.Pipeline.Stage
import DeliveryWatch.Trace.Delay

namespace DeliveryWatch.Stage

open Ledger

variable {σ : Type}

/-- The name of the filter. -/
def filterName : String := "GuidFilter"

/-- Take over what an operation of a store left. -/
def settle {α : Type} (r : Report σ α) (s : Scene σ) : Scene σ :=
  r.log.foldl (fun s (level, text) => s.note level text) { s with resources := r.resources }

/-- Header and body of a message as they are written to its ping, and the account of a message that
cannot be split. -/
def recordedParts (data : String) : Message.Parts × Option String :=
  match Message.splitMessage data with
  | .ok parts => (parts, none)
  | .error (fault, parts) => (parts, some fault.message)

/-- The delay of a message in seconds. The times of trace fields all have zones, so that they can
be compared. -/
def recordedDelay (data : String) : Nat :=
  match Trace.messageDelay data with
  | .ok n => n
  | .error _ => 0

/-- The delivery of a message to a ping. -/
def delivery (token data : String) (now : Time) : Delivery :=
  let (parts, _) := recordedParts data
  ⟨token, recordedDelay data, parts.header, parts.body, now⟩

/-- Write the delivery of a message to its ping. -/
def recordDelivery (store : Store σ) (clock : σ → Time) (token : String) (e : Envelope)
    (s : Scene σ) : Except Fault Unit × Scene σ :=
  let s := match (recordedParts e.data).2 with
    | some account => s.note .error ("Could not parse header and body of email - " ++ account)
    | none => s
  let r := store.record (delivery token e.data (clock s.resources)) s.resources
  let s := settle r s
  match r.result with
  | .ok _ =>
    let delay := recordedDelay e.data
    let account := "Updated delay (" ++ Text.decimal delay ++ "s) for GUID " ++ token
    (.ok (), (s.countDelay delay).note .info account)
  | .error (.update text) =>
    (.ok (), (s.note .error ("Could not update delay - " ++ text)).countUpdateFailure)
  | .error f => (.error f, s)

/-- Match a message with the pings. -/
def filter (store : Store σ) (clock : σ → Time) (e : Envelope) (s : Scene σ) :
    Except Fault Unit × Envelope × Scene σ :=
  match Ping.token? e.subject with
  | none =>
    (.ok (), e.suppress,
      (s.note .warning "Could not extract GUID from the subject").countDecision .noToken)
  | some token =>
    let r := store.find token s.resources
    let s := settle r s
    match r.result with
    | .ok (some _) =>
      let (result, s) := recordDelivery store clock token e (s.countDecision .accepted)
      (result, e, s)
    | .ok none =>
      let account := "GUID " ++ token ++ " not found or it was already seen"
      (.ok (), e.suppress, (s.note .info account).countDecision .notFound)
    | .error (.lookup text) =>
      (.ok (), e.suppress,
        (s.note .error ("Could not lookup GUID - " ++ text)).countDecision .lookupError)
    | .error f => (.error f, e, s)

/-- Check that the pings can be read. -/
def activateFilter (store : Store σ) (s : Scene σ) : Except Fault Unit × Scene σ :=
  let s := s.note .info "Initializing GuidFilter processor..."
  let r := store.validate s.resources
  let s := settle r s
  match r.result with
  | .ok () => (.ok (), s)
  | .error f => (.error (if f.isStore then .activation f.message filterName else f), s)

/-- The stage that matches mail that is to be saved with the pings of a store; `clock` tells the time
at which the mail is received. -/
def tokenFilter (store : Store σ) (clock : σ → Time) : Stage σ where
  name := filterName
  activate := activateFilter store
  process task e s :=
    match task with
    | .saveMail =>
      match filter store clock e s with
      | (.ok (), e, s) => (.ok (Reply.accepted e.queueId), e, s)
      | (.error f, e, s) => (.error f, e, s)
    | .checkRecipient => (.ok (Reply.accepted e.queueId), e, s)

end DeliveryWatch.Stage
