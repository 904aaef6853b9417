/-
What the pipeline counts, and the samples that show it.

* `Tally` — a count for each member of a kind; `add` raises one of them, and `OneMore` tells by the
  numbers that this is what happened;
* `StageMetrics` — what stages count: decisions of the token filter, delays, failed updates, and
  what became of mail at the mail box;
* `Metrics` — these together with the runs of the pipeline by task and outcome;
* `Metrics.samples` — all samples, rows of a name with labels and a number, in a fixed order. Delays
  count in every bucket whose bound they do not exceed, so the counts rise from bucket to bucket.
-/
import DeliveryWatch.Text.Digit

namespace DeliveryWatch

/-! ### Counts -/

/-- A count for each `a : α`. -/
structure Tally (α : Type) where
  count : α → Nat := fun _ => 0

namespace Tally

variable {α : Type} [DecidableEq α]

/-- One more of `a`. -/
def add (t : Tally α) (a : α) : Tally α := ⟨fun b => t.count b + if b = a then 1 else 0⟩

@[simp] theorem add_self (t : Tally α) (a : α) : (t.add a).count a = t.count a + 1 := by
  simp [add]

theorem add_other (t : Tally α) {a b : α} (h : b ≠ a) : (t.add a).count b = t.count b := by
  simp [add, h]

/-- `a` was counted once more, and nothing else was. -/
structure OneMore (t : Tally α) (a : α) (t' : Tally α) : Prop where
  counted : t'.count a = t.count a + 1
  others : ∀ b, b ≠ a → t'.count b = t.count b

theorem oneMore_add (t : Tally α) (a : α) : t.OneMore a (t.add a) where
  counted := t.add_self a
  others _ h := t.add_other h

end Tally

/-- What a pipeline run is for. -/
inductive Task
  /-- A message came in and is to be kept. -/
  | saveMail
  /-- A recipient is checked before its message comes. -/
  | checkRecipient
  deriving Repr, DecidableEq

namespace Task

/-- The name of a task. -/
def name : Task → String
  | saveMail => "SAVE_MAIL"
  | checkRecipient => "VALIDATE_RCPT"

/-- The task of a name. -/
def ofName? : String → Option Task
  | "SAVE_MAIL" => some saveMail
  | "VALIDATE_RCPT" => some checkRecipient
  | _ => none

/-- Every task. -/
def all : List Task := [saveMail, checkRecipient]

end Task

/-- What the token filter decides about a message. -/
inductive Decision
  | accepted
  | noToken
  | notFound
  | lookupError
  deriving Repr, DecidableEq

namespace Decision

/-- The name of a decision. -/
def name : Decision → String
  | accepted => "accepted"
  | noToken => "no_token"
  | notFound => "not_found"
  | lookupError => "lookup_error"

/-- Every decision. -/
def all : List Decision := [accepted, noToken, notFound, lookupError]

end Decision

/-- What becomes of a message at the mail box. -/
inductive Storing
  | stored
  | ignored
  | error
  deriving Repr, DecidableEq

namespace Storing

/-- The name of what became of a message. -/
def name : Storing → String
  | stored => "stored"
  | ignored => "ignored"
  | error => "error"

/-- Everything that may become of a message. -/
def all : List Storing := [stored, ignored, error]

end Storing

/-- What the stages count. -/
structure StageMetrics where
  decisions : Tally Decision := {}
  /-- The delays that were written back, in seconds. -/
  delays : List Nat := []
  updateFailures : Nat := 0
  storings : Tally Storing := {}

/-- What pipeline runs count: by task, and by whether the run succeeded. -/
abbrev Runs := Tally (Task × Bool)

/-- Everything that is counted. -/
structure Metrics where
  stages : StageMetrics := {}
  runs : Runs := {}

end DeliveryWatch

namespace DeliveryWatch.Metrics

/-! ### Samples -/

/-- The upper bounds of the buckets of delays, in seconds. -/
def bounds : List Nat := [1, 5, 15, 30, 60, 120, 300, 600, 1800, 3600]

/-- A name with labels in their order. -/
def sampleName (name : String) (labels : List (String × String)) : String :=
  let one : String × String → String := fun (k, v) => k ++ "=" ++ v
  "mailprobe_" ++ name ++ "\x7b" ++ String.intercalate "," (labels.map one) ++ "\x7d"

/-- The samples of the delays. -/
def delaySamples (delays : List Nat) : List (String × Nat) :=
  let bucket (bound : String) (n : Nat) : String × Nat :=
    (sampleName "delivery_delay_seconds_bucket" [("le", bound)], n)
  let within (b : Nat) : String × Nat :=
    bucket (Text.decimal b ++ ".0") (delays.countP fun d => d ≤ b)
  bounds.map within ++
    [bucket "+Inf" delays.length, (sampleName "delivery_delay_seconds_count" [], delays.length),
     (sampleName "delivery_delay_seconds_sum" [], delays.foldl (· + ·) 0)]

/-- The word for how a run ended. -/
def runName (succeeded : Bool) : String := if succeeded then "success" else "error"

/-- All samples. -/
def samples (m : Metrics) : List (String × Nat) :=
  let decision (d : Decision) : String × Nat :=
    (sampleName "guid_filter_decisions_total" [("outcome", d.name)], m.stages.decisions.count d)
  let storing (s : Storing) : String × Nat :=
    (sampleName "messages_stored_total" [("status", s.name)], m.stages.storings.count s)
  let run (succeeded : Bool) (t : Task) : String × Nat :=
    (sampleName "messages_processed_total" [("status", runName succeeded), ("task", t.name)],
      m.runs.count (t, succeeded))
  Decision.all.map decision ++ delaySamples m.stages.delays ++
    [(sampleName "correlation_update_failures_total" [], m.stages.updateFailures)] ++
    Task.all.map (run true) ++ Task.all.map (run false) ++ Storing.all.map storing

end DeliveryWatch.Metrics
