/-
The life of a pipeline: activations, messages and shutdowns, one after another.

* `Request`, `Pipeline.requestAll` — what may be asked of a pipeline, and what comes of it;
* `IsUp` — an activation succeeded, and no shutdown came to its end after it;
* `isActive_requestAll` — exactly then the pipeline is active;
* `activity_of_requests` — so the last activation or shutdown does not tell whether it is: a pipeline that
  is active stays so when it is activated again and this fails, or when an interrupt ends its shutdown.
  Everywhere else it does tell;
* `active_after_failed_activation` — such a pipeline.
-/
import DeliveryWatch.Proofs.Pipeline.Watch

namespace DeliveryWatch

/-- What may be asked of a pipeline. -/
inductive Request
  | activate
  | process (task : Task) (e : Envelope)
  | shutdown

/-- What comes of a request. -/
inductive Response
  | activated
  /-- An activation failed. -/
  | refused (f : Fault)
  | processed (r : Except Fault Reply)
  | closed
  /-- A shutdown was interrupted. -/
  | interrupted (f : Fault)
  deriving DecidableEq

namespace Response

/-- Whether the response is the end of an activation or of a shutdown, good or bad. -/
def isSwitch : Response → Bool
  | processed _ => false
  | _ => true

/-- Whether an activation or a shutdown did not do its work. -/
def isFailure : Response → Bool
  | refused _ | interrupted _ => true
  | _ => false

/-- The last activation or shutdown. -/
def lastSwitch? (responses : List Response) : Option Response := (responses.filter isSwitch).getLast?

/-- An activation succeeded, and no shutdown came to its end after it. -/
def IsUp (responses : List Response) : Prop :=
  ∃ before after, responses = before ++ activated :: after ∧ closed ∉ after

theorem not_isUp_nil : ¬ IsUp [] := by
  rintro ⟨before, after, h, -⟩
  exact List.append_ne_nil_of_right_ne_nil before (List.cons_ne_nil activated after) h.symm

/-- The first response is either the activation itself, or comes before it. -/
theorem isUp_cons {x : Response} {rest : List Response} :
    IsUp (x :: rest) ↔ IsUp rest ∨ x = activated ∧ closed ∉ rest := by
  constructor
  · rintro ⟨before, after, h, hclosed⟩
    cases before with
    | nil =>
      cases h
      exact .inr ⟨rfl, hclosed⟩
    | cons y before =>
      cases h
      exact .inl ⟨before, after, rfl, hclosed⟩
  · rintro (⟨before, after, rfl, hclosed⟩ | ⟨rfl, hclosed⟩)
    · exact ⟨x :: before, after, rfl, hclosed⟩
    · exact ⟨[], rest, rfl, hclosed⟩

variable {responses : List Response}

theorem lastSwitch?_cons (x : Response) (rest : List Response) :
    lastSwitch? (x :: rest) = (lastSwitch? rest).or (if x.isSwitch then some x else none) := by
  rw [lastSwitch?, lastSwitch?]
  cases hx : x.isSwitch with
  | true =>
    rw [List.filter_cons_of_pos hx, List.getLast?_cons]
    cases (rest.filter isSwitch).getLast? with
    | none => rfl
    | some y => rfl
  | false =>
    rw [List.filter_cons_of_neg (by rw [hx]; exact Bool.false_ne_true)]
    exact (Option.or_none).symm

theorem mem_of_lastSwitch? {x : Response} (h : lastSwitch? responses = some x) :
    x ∈ responses ∧ x.isSwitch = true := List.mem_filter.mp (List.mem_of_getLast? h)

theorem not_isSwitch_of_lastSwitch? (h : lastSwitch? responses = none) : ∀ x ∈ responses, ¬ x.isSwitch = true :=
  List.filter_eq_nil_iff.mp (List.getLast?_eq_none_iff.mp h)

theorem closed_notMem_of_lastSwitch? (h : lastSwitch? responses = none) : closed ∉ responses :=
  fun hmem => not_isSwitch_of_lastSwitch? h closed hmem rfl

/-- If the last of these was an activation that succeeded, no shutdown came after it. -/
theorem isUp_of_lastSwitch? (h : lastSwitch? responses = some activated) : IsUp responses := by
  induction responses with
  | nil => cases h
  | cons x rest ih =>
    rw [lastSwitch?_cons] at h
    rw [isUp_cons]
    -- what the rest has switched last counts, and only without it the first response
    cases hrest : lastSwitch? rest with
    | some y =>
      rw [hrest, Option.some_or] at h
      exact .inl (ih (hrest.trans h))
    | none =>
      rw [hrest, Option.none_or] at h
      split at h
      · cases h
        exact .inr ⟨rfl, closed_notMem_of_lastSwitch? hrest⟩
      · cases h

/-- Where an activation succeeded and no shutdown came to its end after it, the last of them was such an
activation, or a failure. -/
theorem lastSwitch?_of_isUp (h : IsUp responses) : lastSwitch? responses = some activated ∨
    ∃ x, lastSwitch? responses = some x ∧ x.isFailure = true := by
  induction responses with
  | nil => exact absurd h not_isUp_nil
  | cons x rest ih =>
    rw [lastSwitch?_cons]
    -- the activation that succeeded is in the rest, or it is the first response
    rcases isUp_cons.mp h with hrest | ⟨rfl, hclosed⟩
    · rcases ih hrest with hlast | ⟨y, hlast, hfailure⟩
      · exact .inl (by rw [hlast, Option.some_or])
      · exact .inr ⟨y, by rw [hlast, Option.some_or], hfailure⟩
    · cases hrest : lastSwitch? rest with
      | none => exact .inl rfl
      | some y =>
        obtain ⟨hmem, hswitch⟩ := mem_of_lastSwitch? hrest
        cases y with
        | activated => exact .inl rfl
        | refused f => exact .inr ⟨_, rfl, rfl⟩
        | processed r => cases hswitch
        | closed => exact absurd hmem hclosed
        | interrupted f => exact .inr ⟨_, rfl, rfl⟩

end Response

namespace Pipeline

variable {σ : Type}

/-- Ask one thing of the pipeline. -/
def request (p : Pipeline σ) (o : Office σ) : Request → Response × Pipeline σ × Office σ
  | .activate =>
    match p.activate o.scene with
    | (.ok _, p', s) => (.activated, p', { o with scene := s })
    | (.error f, p', s) => (.refused f, p', { o with scene := s })
  | .process task e =>
    match p.process task e o with
    | (r, _, o') => (.processed r, p, o')
  | .shutdown =>
    match p.shutdown o.scene with
    | (.ok _, p', s) => (.closed, p', { o with scene := s })
    | (.error f, p', s) => (.interrupted f, p', { o with scene := s })

/-- Ask one thing after another. -/
def requestAll (p : Pipeline σ) (o : Office σ) : List Request → List Response × Pipeline σ × Office σ
  | [] => ([], p, o)
  | q :: rest =>
    let (x, p, o) := p.request o q
    let (xs, p, o) := requestAll p o rest
    (x :: xs, p, o)

/-- One request leaves the stages alone. An activation that fails leaves the activity alone, and so does a
shutdown that is interrupted. -/
theorem pipeline_request (p : Pipeline σ) (o : Office σ) (q : Request) :
    (p.request o q).2.1 = { p with
      isActive := match (p.request o q).1 with
        | .activated => true
        | .refused _ => p.isActive
        | .processed _ => p.isActive
        | .closed => false
        | .interrupted _ => p.isActive } := by
  cases q with
  | activate =>
    rw [request, activate]
    rcases activateAll p.stages o.scene with ⟨r, s⟩
    cases r with
    | ok u => rfl
    | error f => rfl
  | process task e => rfl
  | shutdown =>
    rw [request, shutdown]
    rcases shutdownAll p.stages o.scene with ⟨r, s⟩
    cases r with
    | ok u => rfl
    | error f => rfl

theorem requestAll_cons (p : Pipeline σ) (o : Office σ) (q : Request) (rest : List Request) :
    p.requestAll o (q :: rest)
      = ((p.request o q).1 :: ((p.request o q).2.1.requestAll (p.request o q).2.2 rest).1,
        ((p.request o q).2.1.requestAll (p.request o q).2.2 rest).2) := rfl

theorem stages_requestAll (p : Pipeline σ) (o : Office σ) (requests : List Request) :
    (p.requestAll o requests).2.1.stages = p.stages := by
  induction requests generalizing p o with
  | nil => rfl
  | cons q rest ih =>
    rw [requestAll_cons]
    rw [ih, pipeline_request]

/-- **A pipeline is active exactly if an activation succeeded and no shutdown came to its end after it**, or
if it was active before and was never shut down. -/
theorem isActive_requestAll (p : Pipeline σ) (o : Office σ) (requests : List Request) :
    (p.requestAll o requests).2.1.isActive = true ↔ Response.IsUp (p.requestAll o requests).1 ∨
      p.isActive = true ∧ .closed ∉ (p.requestAll o requests).1 := by
  induction requests generalizing p o with
  | nil => simp [requestAll, Response.not_isUp_nil]
  | cons q rest ih =>
    rw [requestAll_cons]
    rw [ih, Response.isUp_cons, pipeline_request]
    generalize (Pipeline.requestAll _ _ rest).1 = responses
    cases (p.request o q).1 with
    | activated => grind
    | refused f => simp
    | processed r => simp
    | closed => simp
    | interrupted f => simp

/-- Shutting down calls the stages in order, up to the first interrupt, and leaves the pipeline inactive if
there is none. -/
theorem exists_shutdown (p : Pipeline σ) (s : Scene σ) : ∃ calls r p' s', p.shutdown s = (r, p', s') ∧
    (∀ journal, p.watched.shutdown (s.watch journal) = (r, p'.watched,
      s'.watch (journal ++ List.zipWith .closed (List.range p.stages.length) calls))) ∧
    Closing p.stages.length calls r ∧
    p'.isActive = if interrupts r then p.isActive else false := by
  obtain ⟨calls, r, s', hplain, hjournal, hclosing⟩ := exists_closing p.stages.zipIdx s
  rw [List.zipIdx_map_fst] at hplain
  rw [List.length_zipIdx] at hclosing
  -- a stage stands in the journal by its place
  have hplaces : List.zipWith (fun x c => (.closed x.2 c : JournalEntry σ)) p.stages.zipIdx calls
      = List.zipWith .closed (List.range p.stages.length) calls := by
    rw [List.range_eq_range', ← List.zipIdx_map_snd 0 p.stages, List.zipWith_map_left]
  rw [hplaces] at hjournal
  cases r with
  | ok u =>
    refine ⟨calls, .ok u, { p with isActive := false }, s', ?_, fun journal => ?_, hclosing, rfl⟩
    · rw [shutdown, hplain]
    · rw [shutdown, watched, hjournal]
      rfl
  | error f =>
    have hinterrupt : interrupts (.error f) = true := by
      cases hclosing
      assumption
    refine ⟨calls, .error f, p, s', ?_, fun journal => ?_, hclosing, (if_pos hinterrupt).symm⟩
    · rw [shutdown, hplain]
    · rw [shutdown, watched, hjournal]

/-- **The life of a pipeline.** Whatever its stages do, and however they change, after any requests it is
active exactly if an activation succeeded and no shutdown came to its end after it. Whether the last
activation or shutdown was an activation that succeeded tells this, except where it was one that failed
while the pipeline was active: such a pipeline stays active. Shutting it down calls all its stages, each
once and in order, and leaves it inactive; only an interrupt ends this before. -/
theorem activity_of_requests (stages : List (Stage σ)) (requests : List Request) (o : Office σ) :
    ∃ responses p o', ({ stages := stages } : Pipeline σ).requestAll o requests = (responses, p, o') ∧
      p.stages = stages ∧
      (p.isActive = true ↔ Response.IsUp responses) ∧
      ((p.isActive = true ↔ Response.lastSwitch? responses = some .activated) ↔
        ¬ (Response.IsUp responses ∧
          ∃ x, Response.lastSwitch? responses = some x ∧ x.isFailure = true)) ∧
      ∃ calls r p' s', p.shutdown o'.scene = (r, p', s') ∧
        (∀ journal, p.watched.shutdown (o'.scene.watch journal) = (r, p'.watched,
          s'.watch (journal ++ List.zipWith .closed (List.range stages.length) calls))) ∧
        Closing stages.length calls r ∧
        p'.isActive = if interrupts r then p.isActive else false := by
  rcases h : ({ stages := stages } : Pipeline σ).requestAll o requests with ⟨responses, p, o'⟩
  have hstages : p.stages = stages := by
    have hkept := stages_requestAll { stages := stages } o requests
    rwa [h] at hkept
  have hactive : p.isActive = true ↔ Response.IsUp responses := by
    have hlife := isActive_requestAll { stages := stages } o requests
    rw [h] at hlife
    rw [hlife]
    exact or_iff_left fun hfalse => Bool.false_ne_true hfalse.1
  refine ⟨responses, p, o', rfl, hstages, hactive, ?_, ?_⟩
  · rw [hactive]
    constructor
    -- the two agree only if the last switch was an activation that succeeded, which is no failure
    · rintro hrule ⟨hup, x, hlast, hfailure⟩
      rw [hrule.mp hup] at hlast
      cases hlast
      cases hfailure
    · intro hexcept
      refine ⟨fun hup => ?_, Response.isUp_of_lastSwitch?⟩
      rcases Response.lastSwitch?_of_isUp hup with hlast | hlast
      · exact hlast
      · exact absurd ⟨hup, hlast⟩ hexcept
  · rw [← hstages]
    exact p.exists_shutdown o'.scene

/-- A stage that can be activated once. -/
def onceOnly : Stage Bool where
  name := "once"
  activate s :=
    if s.resources then (.error (.activation "no table" "once"), s)
    else (.ok (), { s with resources := true })
  process _ e s := (.ok {}, e, s)

/-- **A pipeline that is active after an activation has failed.** -/
theorem active_after_failed_activation :
    let (responses, p, _) := ({ stages := [onceOnly] } : Pipeline Bool).requestAll
      { scene := { resources := false } } [.activate, .activate]
    responses = [.activated, .refused (.pipeline "Stage once failed to initialize: no table")] ∧
      p.isActive = true := by
  decide

end Pipeline

end DeliveryWatch
