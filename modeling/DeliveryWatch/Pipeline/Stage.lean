/-
Stages, the steps of a pipeline, with the envelopes that they work on and the replies that they give.

* `Envelope` — a message on its way through the pipeline, with what is known of it;
  `Envelope.suppress` marks a message so that it is not kept, `Envelope.isIgnored` reads the mark;
* `Reply` — what a stage, a pipeline or a mail command answers, in the terms of SMTP; codes below 400
  let a message go on (`Reply.isOk`);
* `Scene σ` — what a stage works on besides the envelope: resources of the kind `σ`, such as a
  database, the metrics and the log;
* `Stage σ` — a name, and what the stage does to be activated, with an envelope, and to shut down.
  Each of these may fail; what it did to the scene and the envelope before stays done.
-/
import DeliveryWatch.Json.Basic
import DeliveryWatch.Log.Entry
import DeliveryWatch.Metrics.Basic
import DeliveryWatch.Pipeline.Fault
import DeliveryWatch.Text.Digit

namespace DeliveryWatch

/-! ### Envelopes -/

/-- A message on its way through the pipeline. Stages change its subject and its annotations. -/
structure Envelope where
  /-- The raw message. -/
  data : String := ""
  subject : Option String := some ""
  sender : Option String := some ""
  recipients : List String := []
  remoteAddress : Option String := some ""
  /-- The name that the sending host gave itself. -/
  greeting : Option String := some ""
  queueId : Option String := some ""
  /-- Annotations by name, which later stages read. -/
  notes : List (String × Json) := []
  deriving Repr, Inhabited

namespace Envelope

/-- The name of the annotation that keeps a message from being stored. -/
def ignoreKey : String := "ignore"

/-- The name of the annotation with the id of the message. -/
def messageIdKey : String := "message_id"

/-- An annotation. -/
def note? (e : Envelope) (name : String) : Option Json := e.notes.lookup name

/-- Set an annotation. -/
def annotate (e : Envelope) (name : String) (v : Json) : Envelope :=
  { e with notes := Json.putField name v e.notes }

/-- Mark the message so that it is not stored. -/
def suppress (e : Envelope) : Envelope := e.annotate ignoreKey (.bool true)

/-- Whether the message is not to be stored. -/
def isIgnored (e : Envelope) : Bool := ((e.note? ignoreKey).getD .null).isTruthy

@[simp] theorem note?_annotate (e : Envelope) (name : String) (v : Json) :
    (e.annotate name v).note? name = some v := Json.lookup_putField_self name v e.notes

@[simp] theorem isIgnored_suppress (e : Envelope) : e.suppress.isIgnored = true := by
  simp [isIgnored, suppress, Json.isTruthy]

end Envelope

/-! ### Replies -/

/-- A reply code and its text. -/
structure Reply where
  code : Int := 250
  text : String := "OK"
  deriving Repr, DecidableEq, Inhabited

namespace Reply

/-- Whether the message goes on. -/
def isOk (r : Reply) : Bool := r.code < 400

/-- The reply as a line of SMTP. -/
def line (r : Reply) : String := Text.decimal r.code ++ " " ++ r.text

/-- The message is taken, under its queue id if it has one. -/
def accepted (queuedId : Option String) : Reply :=
  match queuedId with
  | some q => if q.isEmpty then {} else { text := "OK: queued as " ++ q }
  | none => {}

/-- The sender may try again later. -/
def temporary (text : String := "Temporary error") : Reply := ⟨451, text⟩

/-- The message is refused for good. -/
def rejected (text : String := "Rejected") : Reply := ⟨550, text⟩

@[simp] theorem isOk_accepted (q : Option String) : (accepted q).isOk = true := by
  unfold accepted
  split
  · split <;> rfl
  · rfl

end Reply

/-! ### Stages -/

/-- What stages work on. -/
structure Scene (σ : Type) where
  resources : σ
  metrics : StageMetrics := {}
  /-- The log, oldest entry first. -/
  log : List Log.Entry := []
  /-- The id of the envelope being processed. -/
  current : Option String := none

namespace Scene

variable {σ : Type}

/-- Write to the log. -/
def note (s : Scene σ) (level : Log.Level) (text : String) : Scene σ :=
  { s with log := s.log ++ [⟨level, text, s.current⟩] }

/-- Count a decision of the token filter. -/
def countDecision (s : Scene σ) (d : Decision) : Scene σ :=
  { s with metrics := { s.metrics with decisions := s.metrics.decisions.add d } }

/-- Count a delay that was written back. -/
def countDelay (s : Scene σ) (delay : Nat) : Scene σ :=
  { s with metrics := { s.metrics with delays := s.metrics.delays ++ [delay] } }

/-- Count an update that failed. -/
def countUpdateFailure (s : Scene σ) : Scene σ :=
  { s with metrics := { s.metrics with updateFailures := s.metrics.updateFailures + 1 } }

/-- Count what became of a message at the mail box. -/
def countStoring (s : Scene σ) (what : Storing) : Scene σ :=
  { s with metrics := { s.metrics with storings := s.metrics.storings.add what } }

@[simp] theorem resources_note (s : Scene σ) (l : Log.Level) (t : String) :
    (s.note l t).resources = s.resources := rfl

@[simp] theorem metrics_note (s : Scene σ) (l : Log.Level) (t : String) :
    (s.note l t).metrics = s.metrics := rfl

end Scene

/-- A step of a pipeline. -/
structure Stage (σ : Type) where
  name : String
  /-- Make ready before mail comes. -/
  activate : Scene σ → Except Fault Unit × Scene σ := fun s => (.ok (), s)
  /-- Process an envelope. -/
  process : Task → Envelope → Scene σ → Except Fault Reply × Envelope × Scene σ
  /-- Release what the stage holds. -/
  shutdown : Scene σ → Except Fault Unit × Scene σ := fun s => (.ok (), s)

end DeliveryWatch
