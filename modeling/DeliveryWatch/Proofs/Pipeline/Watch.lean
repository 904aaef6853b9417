/-
What a pipeline asks of its stages, and in which order.

* `Stage.watched` — a stage that does what it did before, and notes every call in a journal;
* `Pipeline.watched` — a pipeline of such stages, which know their places;
* `exists_trail` — watching changes nothing, and the journal of a run is a trail: the first stages in
  order, each of them on the message as the one before it left it, up to the first that does not let the
  message go on;
* `run_of_stages` — so much for whole runs, with the reply and the count that the trail leads to;
* `exists_closing` — shutting down calls every stage once, in order, unless an interrupt ends it;
* `Pipeline.attended`, `exists_process_attended` — a pipeline with an idle stage in front, at whose place
  the journal tells how often the pipeline was run, and on what.

The stages are any functions whatsoever, so a journal is the only way to tell how often one is called.
-/
import DeliveryWatch.Proofs.Pipeline.Passage
import Mathlib.Data.List.Chain
import Mathlib.Data.List.Forall2

namespace DeliveryWatch

/-! ### Journals -/

/-- A visit of a message to a stage: the place and the name of the stage, what it was given, and what it
made of it. -/
structure Visit (σ : Type) where
  place : Nat
  name : String
  task : Task
  envelope : Envelope
  scene : Scene σ
  outcome : Except Fault Reply
  /-- The message as the stage left it. -/
  left : Envelope
  after : Scene σ

/-- An entry in the journal of a pipeline: a message visited a stage, or the stage at a place was shut
down, with this outcome. -/
inductive JournalEntry (σ : Type)
  | visited (v : Visit σ)
  | closed (place : Nat) (outcome : Except Fault Unit)

/-- Resources, and a journal beside them. -/
structure Journaled (σ : Type) where
  resources : σ
  journal : List (JournalEntry σ)

variable {σ : Type}

/-- What a run answers that ends at a stage of this name: a fault that the stage reports becomes a
temporary failure, any other one stays as it is. -/
def Stage.conclude (name : String) : Except Fault Reply → Except Fault Reply
  | .ok reply => .ok reply
  | .error f => if f.isStage then .ok ⟨451, "Processing failed in " ++ name⟩ else .error f

namespace Visit

/-- Whether the stage let the message go on. -/
def isOk (v : Visit σ) : Bool := v.outcome.toOption.any Reply.isOk

/-- The answer of a run that ends with the visit. -/
def conclusion (v : Visit σ) : Except Fault Reply := Stage.conclude v.name v.outcome

/-- The visit is one to this stage, at this place. -/
structure IsTo (v : Visit σ) (task : Task) (stage : Stage σ) (place : Nat) : Prop where
  answer : stage.process task v.envelope v.scene = (v.outcome, v.left, v.after)
  place : v.place = place
  name : v.name = stage.name
  task : v.task = task

end Visit

namespace Scene

/-- The scene with a journal beside the resources. -/
def watch (s : Scene σ) (journal : List (JournalEntry σ)) : Scene (Journaled σ) where
  resources := ⟨s.resources, journal⟩
  metrics := s.metrics
  log := s.log
  current := s.current

/-- The scene without the journal. -/
def unwatch (s : Scene (Journaled σ)) : Scene σ where
  resources := s.resources.resources
  metrics := s.metrics
  log := s.log
  current := s.current

variable (s : Scene σ) (journal : List (JournalEntry σ))

@[simp] theorem unwatch_watch : (s.watch journal).unwatch = s := rfl

@[simp] theorem journal_watch : (s.watch journal).resources.journal = journal := rfl

end Scene

/-- The office with a journal beside the resources. -/
def Office.watch (o : Office σ) (journal : List (JournalEntry σ)) : Office (Journaled σ) where
  scene := o.scene.watch journal
  runs := o.runs

/-- The stage at a place of a pipeline, which notes in the journal the messages that visit it and that it
is shut down. -/
def Stage.watched (stage : Stage σ) (place : Nat) : Stage (Journaled σ) where
  name := stage.name
  activate s :=
    let (r, s') := stage.activate s.unwatch
    (r, s'.watch s.resources.journal)
  process task e s :=
    let (r, e', s') := stage.process task e s.unwatch
    (r, e', s'.watch (s.resources.journal ++
      [.visited ⟨place, stage.name, task, e, s.unwatch, r, e', s'⟩]))
  shutdown s :=
    let (r, s') := stage.shutdown s.unwatch
    (r, s'.watch (s.resources.journal ++ [.closed place r]))

/-- Stages with their places, watched. -/
def watchAll (stages : List (Stage σ × Nat)) : List (Stage (Journaled σ)) :=
  stages.map fun x => x.1.watched x.2

/-- The pipeline with all its stages watched. -/
def Pipeline.watched (p : Pipeline σ) : Pipeline (Journaled σ) where
  stages := watchAll p.stages.zipIdx
  isActive := p.isActive

theorem process_watched {stage : Stage σ} {task : Task} {e e' : Envelope} {s s' : Scene σ}
    {r : Except Fault Reply} (h : stage.process task e s = (r, e', s')) (place : Nat)
    (journal : List (JournalEntry σ)) :
    (stage.watched place).process task e (s.watch journal) = (r, e', s'.watch (journal ++
      [.visited ⟨place, stage.name, task, e, s, r, e', s'⟩])) := by
  simp only [Stage.watched, Scene.unwatch_watch, h, Scene.journal_watch]

/-! ### Ends of runs -/

namespace Office

variable (o : Office σ) (task : Task) (name : String) (outcome : Except Fault Reply)

/-- The office after a run that ended at a stage of this name, with this outcome. -/
def stop : Office σ :=
  match outcome with
  | .ok reply =>
    (o.note .warning ("Stage " ++ name ++ " stopped the pipeline: " ++ reply.line)).countRun task false
  | .error f =>
    if f.isStage then
      (o.note .error ("Stage " ++ name ++ " failed: " ++ f.message)).countRun task false
    else o

theorem stop_watch (journal : List (JournalEntry σ)) :
    (o.watch journal).stop task name outcome = (o.stop task name outcome).watch journal := by
  cases outcome with
  | ok reply => rfl
  | error f =>
    rw [stop, stop]
    split
    · rfl
    · rfl

/-- The run is counted as a failure, if it has an answer. -/
theorem counted_stop : if (Stage.conclude name outcome).isOk
    then o.runs.OneMore (task, false) (o.stop task name outcome).runs
    else (o.stop task name outcome).runs = o.runs := by
  cases outcome with
  | ok reply => exact o.runs.oneMore_add (task, false)
  | error f =>
    rw [stop, Stage.conclude]
    cases f.isStage with
    | true => exact o.runs.oneMore_add (task, false)
    | false => rfl

end Office

theorem Pipeline.processAll_cons_of_stop {stage : Stage σ} {task : Task} {e e1 : Envelope}
    {o : Office σ} {s1 : Scene σ} {outcome : Except Fault Reply}
    (h : stage.process task e o.scene = (outcome, e1, s1))
    (hstop : outcome.toOption.any Reply.isOk = false) (reply : Reply) (rest : List (Stage σ)) :
    processAll task reply (stage :: rest) e o = (Stage.conclude stage.name outcome, e1,
      ({ o with scene := s1 } : Office σ).stop task stage.name outcome) := by
  rw [processAll, h]
  cases outcome with
  | ok reply1 =>
    have hok : reply1.isOk = false := hstop
    simp only [hok]
    rfl
  | error f =>
    rw [Stage.conclude, Office.stop]
    simp only
    split
    · rfl
    · rfl

/-! ### Trails -/

/-- A run of stages as a row of visits, from the answer of the stage before it to its own. -/
structure Trail (task : Task) (reply : Reply) (stages : List (Stage σ × Nat)) (e : Envelope)
    (o : Office σ) (visits : List (Visit σ)) (r : Except Fault Reply) (e' : Envelope)
    (o' : Office σ) : Prop where
  /-- The visits are to the first stages, one to each, in order. -/
  visited : List.Forall₂ (fun x v => v.IsTo task x.1 x.2) (stages.take visits.length) visits
  first : ∀ v ∈ visits.head?, v.envelope = e ∧ v.scene = o.scene
  /-- Each stage works on what the one before it left. -/
  handed : visits.IsChain fun v w => w.envelope = v.left ∧ w.scene = v.after
  left : e' = (visits.getLast?.map Visit.left).getD e
  /-- Every stage but the last one let the message go on. -/
  goesOn : ∀ v ∈ visits.dropLast, v.isOk = true
  /-- The last one did not, unless it is the last of all stages. -/
  ends : visits.length = stages.length ∨ ∃ v ∈ visits.getLast?, v.isOk = false
  answer : r = (visits.getLast?.map Visit.conclusion).getD (.ok reply)
  /-- One run is counted, as a success if all stages let the message go on. A fault that no stage
  reports keeps it from being counted. -/
  counted : if r.isOk then
      o.runs.OneMore (task, decide (visits.length = stages.length ∧ ∀ v ∈ visits, v.isOk = true)) o'.runs
    else o'.runs = o.runs

namespace Trail

variable {task : Task} {reply : Reply} {stage : Stage σ} {place : Nat} {rest : List (Stage σ × Nat)}
  {e e1 e' : Envelope} {o o' : Office σ} {s1 : Scene σ} {r : Except Fault Reply}

/-- A run without stages. -/
theorem nil (task : Task) (reply : Reply) (e : Envelope) (o : Office σ) :
    Trail task reply [] e o [] (.ok reply) e (o.countRun task true) := by
  refine ⟨.nil, ?_, .nil, rfl, ?_, .inl rfl, rfl, o.runs.oneMore_add (task, true)⟩
  · intro v hv
    cases hv
  · intro v hv
    cases hv

theorem stop {outcome : Except Fault Reply} (h : stage.process task e o.scene = (outcome, e1, s1))
    (hstop : outcome.toOption.any Reply.isOk = false) :
    Trail task reply ((stage, place) :: rest) e o
      [⟨place, stage.name, task, e, o.scene, outcome, e1, s1⟩] (Stage.conclude stage.name outcome) e1
      (({ o with scene := s1 } : Office σ).stop task stage.name outcome) := by
  refine ⟨?_, ?_, .singleton _, rfl, ?_, .inr ⟨_, rfl, hstop⟩, rfl, ?_⟩
  · exact .cons ⟨h, rfl, rfl, rfl⟩ .nil
  · intro v hv
    cases hv
    exact ⟨rfl, rfl⟩
  · intro v hv
    cases hv
  · rw [decide_eq_false]
    · exact Office.counted_stop _ task stage.name outcome
    · rintro ⟨-, hall⟩
      have hok := hall _ List.mem_cons_self
      rw [Visit.isOk, hstop] at hok
      cases hok

theorem cons {reply1 : Reply} {visits : List (Visit σ)}
    (h : stage.process task e o.scene = (.ok reply1, e1, s1)) (hok : reply1.isOk = true)
    (ht : Trail task reply1 rest e1 { o with scene := s1 } visits r e' o') :
    Trail task reply ((stage, place) :: rest) e o
      (⟨place, stage.name, task, e, o.scene, .ok reply1, e1, s1⟩ :: visits) r e' o' := by
  refine ⟨?_, ?_, ?_, ?_, ?_, ?_, ?_, ?_⟩
  · exact .cons ⟨h, rfl, rfl, rfl⟩ ht.visited
  · intro v hv
    cases hv
    exact ⟨rfl, rfl⟩
  · exact List.isChain_cons.mpr ⟨ht.first, ht.handed⟩
  · rw [ht.left, List.getLast?_cons]
    cases visits.getLast? with
    | none => rfl
    | some v => rfl
  -- a stage that another one follows let the message go on
  · intro v hv
    cases visits with
    | nil => cases hv
    | cons w ws =>
      rcases List.mem_cons.mp hv with rfl | hv
      · exact hok
      · exact ht.goesOn v hv
  · rcases ht.ends with hlength | ⟨v, hv, hstop⟩
    · exact .inl (congrArg Nat.succ hlength)
    · refine .inr ⟨v, ?_, hstop⟩
      rw [List.getLast?_cons, Option.mem_def.mp hv]
      rfl
  · rw [ht.answer, List.getLast?_cons]
    cases visits.getLast? with
    | none => rfl
    | some v => rfl
  · have hall : (⟨place, stage.name, task, e, o.scene, .ok reply1, e1, s1⟩ : Visit σ).isOk = true := hok
    simp only [List.length_cons, Nat.add_right_cancel_iff, List.forall_mem_cons, hall, true_and]
    exact ht.counted

end Trail

namespace Pipeline

/-- **The journal of a run is its trail**, and watching changes nothing. -/
theorem exists_trail (task : Task) (reply : Reply) (stages : List (Stage σ × Nat)) (e : Envelope)
    (o : Office σ) (journal : List (JournalEntry σ)) : ∃ visits r e' o',
      processAll task reply (stages.map Prod.fst) e o = (r, e', o') ∧
      processAll task reply (watchAll stages) e (o.watch journal)
        = (r, e', o'.watch (journal ++ visits.map .visited)) ∧
      Trail task reply stages e o visits r e' o' := by
  -- on the stages; a stage that lets the message go on hands its own answer to the others
  induction stages generalizing reply e o journal with
  | nil =>
    refine ⟨[], .ok reply, e, o.countRun task true, rfl, ?_, .nil task reply e o⟩
    rw [List.map_nil, List.append_nil]
    rfl
  | cons x rest ih =>
    obtain ⟨stage, place⟩ := x
    rcases h : stage.process task e o.scene with ⟨outcome, e1, s1⟩
    have hwatched := process_watched h place journal
    cases hok : outcome.toOption.any Reply.isOk with
    | true =>
      cases outcome with
      | error f => cases hok
      | ok reply1 =>
        obtain ⟨visits, r, e', o', hplain, hjournal, ht⟩ := ih reply1 e1 { o with scene := s1 }
          (journal ++ [.visited ⟨place, stage.name, task, e, o.scene, .ok reply1, e1, s1⟩])
        refine ⟨_ :: visits, r, e', o', ?_, ?_, ht.cons h hok⟩
        · rw [List.map_cons, processAll_cons_of_ok h hok, hplain]
        · rw [watchAll, List.map_cons, processAll_cons_of_ok hwatched hok]
          rw [List.append_assoc] at hjournal
          exact hjournal
    | false =>
      refine ⟨[_], _, e1, _, ?_, ?_, .stop h hok⟩
      · rw [List.map_cons, processAll_cons_of_stop h hok]
      · have hend := Office.stop_watch { o with scene := s1 } task stage.name outcome (journal ++
          [.visited ⟨place, stage.name, task, e, o.scene, outcome, e1, s1⟩])
        rw [watchAll, List.map_cons, processAll_cons_of_stop hwatched hok]
        exact congrArg (fun o' => (Stage.conclude stage.name outcome, e1, o')) hend

/-- Whether a call raised an interrupt. -/
def interrupts : Except Fault Unit → Bool
  | .ok _ => false
  | .error f => f.isInterrupt

/-- What is written to the log when a stage of this name was shut down. -/
def noteClosing (name : String) (s : Scene σ) : Except Fault Unit → Scene σ
  | .ok _ => s
  | .error f => s.note .error ("Stage " ++ name ++ " failed to shut down: " ++ f.message)

theorem shutdownAll_cons {stage : Stage σ} {s s1 : Scene σ} {c : Except Fault Unit}
    (h : stage.shutdown s = (c, s1)) (rest : List (Stage σ)) : shutdownAll (stage :: rest) s
      = if interrupts c then (c, s1) else shutdownAll rest (noteClosing stage.name s1 c) := by
  rw [shutdownAll, h]
  cases c with
  | ok u => rfl
  | error f => rfl

theorem noteClosing_watch (name : String) (s : Scene σ) (journal : List (JournalEntry σ))
    (c : Except Fault Unit) : noteClosing name (s.watch journal) c = (noteClosing name s c).watch journal := by
  cases c with
  | ok u => rfl
  | error f => rfl

/-- How the shutdown of `n` stages ends, by the outcomes of the calls: with the last stage, or with the
first interrupt. -/
inductive Closing (n : Nat) : List (Except Fault Unit) → Except Fault Unit → Prop
  | whole {calls : List (Except Fault Unit)} (hlength : calls.length = n)
      (hcalm : ∀ c ∈ calls, interrupts c = false) : Closing n calls (.ok ())
  | broken {calls : List (Except Fault Unit)} {r : Except Fault Unit} (hlength : calls.length < n)
      (hcalm : ∀ c ∈ calls, interrupts c = false) (hr : interrupts r = true) : Closing n (calls ++ [r]) r

/-- A call that raises no interrupt leaves the end to the calls behind it. -/
theorem Closing.cons {n : Nat} {calls : List (Except Fault Unit)} {c r : Except Fault Unit}
    (h : Closing n calls r) (hc : interrupts c = false) : Closing (n + 1) (c :: calls) r := by
  cases h with
  | whole hlength hcalm => exact .whole (congrArg Nat.succ hlength) (List.forall_mem_cons.mpr ⟨hc, hcalm⟩)
  | broken hlength hcalm hr =>
    exact .broken (Nat.succ_lt_succ hlength) (List.forall_mem_cons.mpr ⟨hc, hcalm⟩) hr

/-- Shutting down calls the stages in order, each once, up to the first interrupt. -/
theorem exists_closing (stages : List (Stage σ × Nat)) (s : Scene σ) : ∃ calls r s',
    shutdownAll (stages.map Prod.fst) s = (r, s') ∧
    (∀ journal, shutdownAll (watchAll stages) (s.watch journal)
      = (r, s'.watch (journal ++ List.zipWith (fun x c => .closed x.2 c) stages calls))) ∧
    Closing stages.length calls r := by
  -- on the stages; only an interrupt keeps the others from being called
  induction stages generalizing s with
  | nil =>
    refine ⟨[], .ok (), s, rfl, fun journal => ?_, .whole rfl fun c hc => absurd hc List.not_mem_nil⟩
    rw [List.zipWith_nil_left, List.append_nil]
    rfl
  | cons x rest ih =>
    obtain ⟨stage, place⟩ := x
    rcases h : stage.shutdown s with ⟨c, s1⟩
    have hwatched : ∀ journal, (stage.watched place).shutdown (s.watch journal)
        = (c, s1.watch (journal ++ [.closed place c])) := by
      intro journal
      simp only [Stage.watched, Scene.unwatch_watch, h, Scene.journal_watch]
    cases hc : interrupts c with
    | true =>
      refine ⟨[c], c, s1, ?_, fun journal => ?_,
        .broken (Nat.zero_lt_succ _) (fun c hc => absurd hc List.not_mem_nil) hc⟩
      · rw [List.map_cons, shutdownAll_cons h, if_pos hc]
      · rw [watchAll, List.map_cons, shutdownAll_cons (hwatched journal), if_pos hc,
          List.zipWith_cons_cons, List.zipWith_nil_right]
    | false =>
      obtain ⟨calls, r, s', hplain, hjournal, hclosing⟩ := ih (noteClosing stage.name s1 c)
      refine ⟨c :: calls, r, s', ?_, fun journal => ?_, hclosing.cons hc⟩
      · rw [List.map_cons, shutdownAll_cons h, hc]
        exact hplain
      · rw [watchAll, List.map_cons, shutdownAll_cons (hwatched journal), hc, noteClosing_watch]
        refine (hjournal _).trans ?_
        rw [List.append_assoc]
        rfl

/-- **What a run is.** The journal of a pipeline, which is watched without being changed, is a trail
through its stages: a row of visits to the first of them, in order and one to each, up to the first that
fails or does not let the message go on. The answer and the count of the run are those of the trail. -/
theorem run_of_stages (p : Pipeline σ) (task : Task) (e : Envelope) (o : Office σ) :
    ∃ visits r e' o', p.process task e o = (r, e', o') ∧
      p.watched.process task e (o.watch []) = (r, e', o'.watch (visits.map .visited)) ∧
      Trail task (.accepted e.queueId) p.stages.zipIdx e o visits r e' o' := by
  obtain ⟨visits, r, e', o', hplain, hwatched, ht⟩ :=
    exists_trail task (.accepted e.queueId) p.stages.zipIdx e o []
  rw [List.zipIdx_map_fst] at hplain
  exact ⟨visits, r, e', o', hplain, hwatched, ht⟩

end Pipeline

/-! ### Runs in a journal -/

/-- A stage that lets every message pass. -/
def Stage.idle : Stage σ where
  name := "idle"
  process _ e s := (.ok (.accepted e.queueId), e, s)

/-- The pipeline with an idle stage in front of it. -/
def Pipeline.attended (p : Pipeline σ) : Pipeline σ := { p with stages := Stage.idle :: p.stages }

/-- What the first stage of a pipeline was asked to do with which messages: the runs of the pipeline. -/
def runsIn (journal : List (JournalEntry σ)) : List (Task × Envelope) :=
  journal.filterMap fun
    | .visited v => if v.place = 0 then some (v.task, v.envelope) else none
    | .closed _ _ => none

end DeliveryWatch
