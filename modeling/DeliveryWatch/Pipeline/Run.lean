/-
Pipelines: stages in a row.

* `Pipeline.process` hands an envelope from stage to stage. It stops at the first stage that fails or
  does not let the message go on, and counts one run; a fault that is no stage's own passes through
  uncounted.
* `Pipeline.activate` makes every stage ready; one that cannot be activated leaves the pipeline as it
  was.
* `Pipeline.shutdown` shuts every stage down, whatever fails, and leaves the pipeline inactive. Only an
  interrupt ends it before.
-/
import DeliveryWatch.Pipeline.Stage

namespace DeliveryWatch

/-- Stages in a row. -/
structure Pipeline (σ : Type) where
  stages : List (Stage σ)
  isActive : Bool := false

/-- A scene, and how pipeline runs ended so far. -/
structure Office (σ : Type) where
  scene : Scene σ
  runs : Runs := {}

namespace Office

variable {σ : Type}

/-- Count a run. -/
def countRun (o : Office σ) (t : Task) (succeeded : Bool) : Office σ :=
  { o with runs := o.runs.add (t, succeeded) }

/-- Write to the log. -/
def note (o : Office σ) (level : Log.Level) (text : String) : Office σ :=
  { o with scene := o.scene.note level text }

/-- Everything that is counted. -/
def metrics (o : Office σ) : Metrics := ⟨o.scene.metrics, o.runs⟩

end Office

namespace Pipeline

variable {σ : Type}

/-- Activate stages in order, up to the first that fails. -/
def activateAll : List (Stage σ) → Scene σ → Except Fault Unit × Scene σ
  | [], s => (.ok (), s)
  | stage :: rest, s =>
    match stage.activate s with
    | (.ok _, s) => activateAll rest (s.note .info ("Initialized stage " ++ stage.name))
    | (.error f, s) =>
      if f.isStage then
        let text := "Stage " ++ stage.name ++ " failed to initialize: " ++ f.message
        (.error (.pipeline text), s.note .error text)
      else (.error f, s)

/-- Activate the pipeline. -/
def activate (p : Pipeline σ) (s : Scene σ) : Except Fault Unit × Pipeline σ × Scene σ :=
  match activateAll p.stages s with
  | (.ok _, s) => (.ok (), { p with isActive := true }, s)
  | (.error f, s) => (.error f, p, s)

/-- Run an envelope through stages; `reply` is the answer of the stage before. -/
def processAll (task : Task) (reply : Reply) :
    List (Stage σ) → Envelope → Office σ → Except Fault Reply × Envelope × Office σ
  | [], e, o => (.ok reply, e, o.countRun task true)
  | stage :: rest, e, o =>
    match stage.process task e o.scene with
    | (.ok reply, e, s) =>
      let o := { o with scene := s }
      if reply.isOk then processAll task reply rest e o
      else
        let text := "Stage " ++ stage.name ++ " stopped the pipeline: " ++ reply.line
        (.ok reply, e, (o.note .warning text).countRun task false)
    | (.error f, e, s) =>
      let o := { o with scene := s }
      if f.isStage then
        let text := "Stage " ++ stage.name ++ " failed: " ++ f.message
        (.ok (.temporary ("Processing failed in " ++ stage.name)), e,
          (o.note .error text).countRun task false)
      else (.error f, e, o)

/-- Run an envelope through the pipeline. -/
def process (p : Pipeline σ) (task : Task) (e : Envelope) (o : Office σ) :
    Except Fault Reply × Envelope × Office σ :=
  processAll task (Reply.accepted e.queueId) p.stages e o

/-- Shut down stages in order. Faults are only logged, but for an interrupt. -/
def shutdownAll : List (Stage σ) → Scene σ → Except Fault Unit × Scene σ
  | [], s => (.ok (), s)
  | stage :: rest, s =>
    match stage.shutdown s with
    | (.ok _, s) => shutdownAll rest s
    | (.error f, s) =>
      if f.isInterrupt then (.error f, s)
      else
        let text := "Stage " ++ stage.name ++ " failed to shut down: " ++ f.message
        shutdownAll rest (s.note .error text)

/-- Shut down the pipeline. -/
def shutdown (p : Pipeline σ) (s : Scene σ) : Except Fault Unit × Pipeline σ × Scene σ :=
  match shutdownAll p.stages s with
  | (.ok _, s) => (.ok (), { p with isActive := false }, s)
  | (.error f, s) => (.error f, p, s)

/-- The names of the stages in order. -/
def names (p : Pipeline σ) : List String := p.stages.map Stage.name

end Pipeline

end DeliveryWatch
