/-
The ways of a message through the stages: what each stage answers, counts and leaves, case by case.

* `Store.IsDutiful` — a store whose operations fail only as they may; a table of pings whose lookup field
  is not the received time makes one (`isDutiful_store`);
* `Verdict`, `Course` — what the filter may find about a message, what each finding needs, and the
  resources it leads to; `exists_course` — every message takes one of these ways;
* `Keeping` — what may become of a message at the mail box; `exists_keeping` — one of these, for a
  message whose annotations have a place in cells.
-/
import DeliveryWatch.Proofs.Pipeline.Failure
import DeliveryWatch.Proofs.Stage.TokenFilter

namespace DeliveryWatch

open Database Ledger Outcome

/-! ### Stores that fail only as they may -/

/-- A store of pings that fails only as it may: a lookup by a fault of the lookup, and the write-back of
a delivery by a fault of the update. -/
structure Ledger.Store.IsDutiful {σ : Type} (store : Store σ) : Prop where
  find : ∀ token r f, (store.find token r).result = .error f → ∃ text, f = .lookup text
  record : ∀ token data now r f, (store.record (Stage.delivery token data now) r).result = .error f →
    ∃ text, f = .update text

namespace Ledger.PingTable

variable {σ : Type} {p : PingTable}

theorem isDutiful_store (access : Access σ) (h : p.field ≠ receivedColumn) :
    (p.store access).IsDutiful := by
  refine ⟨?_, ?_⟩
  · intro token r f hf
    rcases find_eq_error hf with haccount | ⟨-, v, -, hshown⟩
    · exact haccount
    · exact absurd (exists_shownValue_eq_error.mp ⟨f, hshown⟩).1 h
  · intro token data now r f hf
    exact update_of_record (result_record_eq_error.mp hf)

end Ledger.PingTable

/-! ### Annotations -/

namespace Envelope

/-- Setting an annotation leaves the others alone. -/
theorem note?_annotate_of_ne (e : Envelope) {name key : String} (h : key ≠ name) (v : Json) :
    (e.annotate name v).note? key = e.note? key := by
  show (Json.putField name v e.notes).lookup key = e.notes.lookup key
  induction e.notes with
  | nil =>
    have hne : (key == name) = false := by simpa using h
    simp [Json.putField, List.lookup_cons, hne]
  | cons x rest ih =>
    obtain ⟨k, w⟩ := x
    by_cases hk : k = name
    · have hne : (key == k) = false := by simpa [hk] using h
      simp [Json.putField, hk, List.lookup_cons, hk ▸ hne]
    · rw [Json.putField, if_neg hk, List.lookup_cons, List.lookup_cons, ih]

end Envelope

/-! ### Counting -/

namespace Scene

variable {σ : Type}

theorem metrics_countDecision (s : Scene σ) (d : Decision) : (s.countDecision d).metrics
    = { s.metrics with decisions := s.metrics.decisions.add d } := rfl

theorem metrics_countDelay (s : Scene σ) (n : Nat) : (s.countDelay n).metrics
    = { s.metrics with delays := s.metrics.delays ++ [n] } := rfl

theorem metrics_countUpdateFailure (s : Scene σ) : s.countUpdateFailure.metrics
    = { s.metrics with updateFailures := s.metrics.updateFailures + 1 } := rfl

end Scene

namespace Stage

variable {σ : Type}

/-! ### The reader of headers -/

theorem metrics_readHeaders (e : Envelope) (s : Scene σ) :
    (readHeaders e s).2.metrics = s.metrics := by
  rw [readHeaders]
  cases Message.readMetadata (.text e.data) with
  | error f =>
    simp only [noteUnreadable]
    split
    · rfl
    · rfl
  | ok m =>
    simp only
    split
    · rfl
    · rfl

/-! ### The filter -/

/-- What the filter finds about a message, and whether the delivery of an accepted one is written. -/
inductive Verdict
  | noToken
  | notFound
  | lookupError
  /-- A ping was found, and this delay was written to it. -/
  | written (delay : Nat)
  /-- A ping was found, and nothing could be written to it. -/
  | unwritten
  deriving Repr, DecidableEq

namespace Verdict

/-- The decision that is counted. -/
def decision : Verdict → Decision
  | noToken => .noToken
  | notFound => .notFound
  | lookupError => .lookupError
  | written _ => .accepted
  | unwritten => .accepted

/-- What the filter makes of the envelope. -/
def apply (v : Verdict) (e : Envelope) : Envelope :=
  if v.decision = .accepted then e else e.suppress

/-- What the filter counts. -/
def count (v : Verdict) (m : StageMetrics) : StageMetrics :=
  let m := { m with decisions := m.decisions.add v.decision }
  match v with
  | written delay => { m with delays := m.delays ++ [delay] }
  | unwritten => { m with updateFailures := m.updateFailures + 1 }
  | _ => m

@[simp] theorem queueId_apply (v : Verdict) (e : Envelope) : (v.apply e).queueId = e.queueId := by
  rw [apply]
  split
  · rfl
  · rfl

end Verdict

/-- The ways of a message through the filter over a store: for each verdict what it needs, and the
resources that it leads to. -/
inductive Course (store : Store σ) (clock : σ → Time) (e : Envelope) (r : σ) : Verdict → σ → Prop
  | noToken (ht : Ping.token? e.subject = none) : Course store clock e r .noToken r
  | notFound {token : String} (ht : Ping.token? e.subject = some token)
      (hf : (store.find token r).result = .ok none) :
      Course store clock e r .notFound (store.find token r).resources
  | lookupError {token text : String} (ht : Ping.token? e.subject = some token)
      (hf : (store.find token r).result = .error (.lookup text)) :
      Course store clock e r .lookupError (store.find token r).resources
  | written {token : String} {ping : Ping} {r' : σ} {k : Nat}
      (ht : Ping.token? e.subject = some token) (hf : (store.find token r).result = .ok (some ping))
      (hr' : (store.find token r).resources = r')
      (hr : (store.record (delivery token e.data (clock r')) r').result = .ok k) :
      Course store clock e r (.written (recordedDelay e.data))
        (store.record (delivery token e.data (clock r')) r').resources
  | unwritten {token text : String} {ping : Ping} {r' : σ}
      (ht : Ping.token? e.subject = some token) (hf : (store.find token r).result = .ok (some ping))
      (hr' : (store.find token r).resources = r')
      (hr : (store.record (delivery token e.data (clock r')) r').result = .error (.update text)) :
      Course store clock e r .unwritten
        (store.record (delivery token e.data (clock r')) r').resources

/-- Entries of the log count nothing. -/
theorem metrics_settle {α : Type} (r : Report σ α) (s : Scene σ) :
    (settle r s).metrics = s.metrics := by
  refine List.foldlRecOn (motive := fun t : Scene σ => t.metrics = s.metrics) r.log _ rfl ?_
  intro t ht entry _
  exact ht

section AnyStore

variable (store : Store σ) (clock : σ → Time) (token : String) (e : Envelope) (s : Scene σ)

theorem recordDelivery_of_ok {k : Nat}
    (h : (store.record (delivery token e.data (clock s.resources)) s.resources).result = .ok k) :
    ∃ s', recordDelivery store clock token e s = (.ok (), s') ∧
      s'.resources
        = (store.record (delivery token e.data (clock s.resources)) s.resources).resources ∧
      s'.metrics = { s.metrics with delays := s.metrics.delays ++ [recordedDelay e.data] } := by
  rw [recordDelivery]
  -- the account of a message that cannot be split goes to the log only
  cases (recordedParts e.data).2
  all_goals
    simp only [Scene.resources_note, h]
    refine ⟨_, rfl, resources_settle _ _, ?_⟩
    simp only [Scene.metrics_note, Scene.metrics_countDelay, metrics_settle]

theorem recordDelivery_of_update {text : String}
    (h : (store.record (delivery token e.data (clock s.resources)) s.resources).result
      = .error (.update text)) :
    ∃ s', recordDelivery store clock token e s = (.ok (), s') ∧
      s'.resources
        = (store.record (delivery token e.data (clock s.resources)) s.resources).resources ∧
      s'.metrics = { s.metrics with updateFailures := s.metrics.updateFailures + 1 } := by
  rw [recordDelivery]
  cases (recordedParts e.data).2
  all_goals
    simp only [Scene.resources_note, h]
    refine ⟨_, rfl, resources_settle _ _, ?_⟩
    simp only [Scene.metrics_note, Scene.metrics_countUpdateFailure, metrics_settle]

variable {store}

/-- A message whose ping is found is accepted, and its delivery is written or not. -/
theorem exists_course_of_found (h : store.IsDutiful) {ping : Ping}
    (ht : Ping.token? e.subject = some token)
    (hf : (store.find token s.resources).result = .ok (some ping)) :
    ∃ v s', recordDelivery store clock token e
        ((settle (store.find token s.resources) s).countDecision .accepted) = (.ok (), s') ∧
      v.decision = .accepted ∧ s'.metrics = v.count s.metrics ∧
      Course store clock e s.resources v s'.resources := by
  -- the decision is counted before the delivery is written back
  generalize hs : (settle (store.find token s.resources) s).countDecision .accepted = s₁
  have hresources : s₁.resources = (store.find token s.resources).resources := by
    rw [← hs]
    exact resources_settle (store.find token s.resources) s
  have hmetrics : s₁.metrics
      = { s.metrics with decisions := s.metrics.decisions.add .accepted } := by
    rw [← hs, Scene.metrics_countDecision, metrics_settle]
  cases hr : (store.record (delivery token e.data (clock s₁.resources)) s₁.resources).result with
  | ok k =>
    obtain ⟨s', heq, hres, hcount⟩ := recordDelivery_of_ok store clock token e s₁ hr
    refine ⟨.written (recordedDelay e.data), s', heq, rfl, ?_, ?_⟩
    · rw [hcount, hmetrics]
      rfl
    · rw [hres]
      exact .written ht hf hresources.symm hr
  | error f =>
    obtain ⟨text, rfl⟩ := h.record token e.data (clock s₁.resources) s₁.resources f hr
    obtain ⟨s', heq, hres, hcount⟩ := recordDelivery_of_update store clock token e s₁ hr
    refine ⟨.unwritten, s', heq, rfl, ?_, ?_⟩
    · rw [hcount, hmetrics]
      rfl
    · rw [hres]
      exact .unwritten ht hf hresources.symm hr

/-- **Every message takes one of the ways through the filter.** -/
theorem exists_course (h : store.IsDutiful) : ∃ v r s',
    filter store clock e s = (.ok (), v.apply e, s') ∧ s'.resources = r ∧
      s'.metrics = v.count s.metrics ∧ Course store clock e s.resources v r := by
  rw [filter]
  cases ht : Ping.token? e.subject with
  | none => exact ⟨.noToken, _, _, rfl, rfl, rfl, .noToken ht⟩
  | some token =>
    have hresources := resources_settle (store.find token s.resources) s
    have hmetrics := metrics_settle (store.find token s.resources) s
    simp only
    cases hf : (store.find token s.resources).result with
    | error f =>
      obtain ⟨text, rfl⟩ := h.find token s.resources f hf
      exact ⟨.lookupError, _, _, rfl, hresources, congrArg (Verdict.count .lookupError) hmetrics,
        .lookupError ht hf⟩
    | ok found =>
      cases found with
      | none =>
        exact ⟨.notFound, _, _, rfl, hresources, congrArg (Verdict.count .notFound) hmetrics,
          .notFound ht hf⟩
      | some ping =>
        -- the ping is found, and what the write-back comes to decides the way
        obtain ⟨v, s', heq, hv, hcount, hcourse⟩ := exists_course_of_found clock token e s h ht hf
        simp only [heq]
        refine ⟨v, _, s', ?_, rfl, hcount, hcourse⟩
        rw [Verdict.apply, if_pos hv]

end AnyStore

/-! ### The filter over a table of pings -/

section Table

variable {p : PingTable}

/-- A way through the filter leaves everything as it is, or writes the delivery to the table. -/
theorem Course.eq_or_written {e : Envelope} {r r' : Premises} {v : Verdict}
    (h : Course (p.store Premises.access) Premises.now e r v r') :
    r' = r ∨ ∃ token k db, Ping.token? e.subject = some token ∧
      p.record (delivery token e.data r.now) r.database = .ok (db, k) ∧
        r' = { r with database := db } := by
  -- only a way that comes to the write-back can change anything
  have hrecord : ∀ token r₁, Ping.token? e.subject = some token → r₁ = r →
      ((p.store Premises.access).record (delivery token e.data (Premises.now r₁)) r₁).resources = r' →
      r' = r ∨ ∃ token k db, Ping.token? e.subject = some token ∧
        p.record (delivery token e.data r.now) r.database = .ok (db, k) ∧
          r' = { r with database := db } := by
    rintro token r₁ ht rfl hr'
    rw [PingTable.resources_record] at hr'
    cases hr : p.record (delivery token e.data r₁.now) r₁.database with
    | error f =>
      rw [hr] at hr'
      exact .inl hr'.symm
    | ok x =>
      rw [hr] at hr'
      exact .inr ⟨token, x.2, x.1, ht, hr, hr'.symm⟩
  cases h with
  | noToken ht => exact .inl rfl
  | notFound ht hf => exact .inl rfl
  | lookupError ht hf => exact .inl rfl
  | @written token ping r₁ k ht hf hr₁ hr => exact hrecord token r₁ ht hr₁.symm rfl
  | @unwritten token text ping r₁ ht hf hr₁ hr => exact hrecord token r₁ ht hr₁.symm rfl

end Table

/-! ### The mail box -/

/-- What may become of a message at the mail box, what it needs, and the database it leads to. -/
inductive Keeping (e : Envelope) (db : Database) : Storing → Database → Prop
  | ignored (hi : e.isIgnored = true) : Keeping e db .ignored db
  | stored {db' : Database} (hi : e.isIgnored = false) (h : MailTable.insert db e = .ok db') :
      Keeping e db .stored db'
  | error {f : Database.Fault} (hi : e.isIgnored = false) (h : MailTable.insert db e = .error f)
      (hf : f.isReported = true) : Keeping e db .error db

/-- The mail box passes over exactly the messages that are to be ignored. -/
theorem Keeping.eq_ignored_iff {e : Envelope} {db db' : Database} {w : Storing}
    (h : Keeping e db w db') : w = .ignored ↔ e.isIgnored = true := by
  cases h with
  | ignored hi => exact ⟨fun _ => hi, fun _ => rfl⟩
  | stored hi hinsert => simp [hi]
  | error hi hinsert hf => simp [hi]

/-- The answer of the mail box. -/
def answer (q : Option String) : Storing → Reply
  | .stored => Reply.accepted q
  | .ignored => Reply.accepted q
  | .error => .temporary "Storage error"

theorem isOk_answer (q : Option String) (w : Storing) : (answer q w).isOk = (w != .error) := by
  cases w with
  | stored => exact Reply.isOk_accepted q
  | ignored => exact Reply.isOk_accepted q
  | error => rfl

/-- **One of these becomes of every message**, unless a number in it is too large for a cell. -/
theorem exists_keeping (e : Envelope) (s : Scene Premises) :
    (∃ w db s', keep Premises.access e s = (.ok (answer e.queueId w), s') ∧
      s'.resources = { s.resources with database := db } ∧
      s'.metrics = { s.metrics with storings := s.metrics.storings.add w } ∧
      Keeping e s.resources.database w db) ∨
    e.isIgnored = false ∧ MailTable.insert s.resources.database e = .error .tooLarge ∧
      keep Premises.access e s = (.error .tooLarge, s) := by
  have hget : Premises.access.get s.resources = s.resources.database := rfl
  rw [keep]
  cases hi : e.isIgnored with
  | true => exact .inl ⟨.ignored, _, _, rfl, rfl, rfl, .ignored hi⟩
  | false =>
    rw [hget]
    cases h : MailTable.insert s.resources.database e with
    | ok db => exact .inl ⟨.stored, _, _, rfl, rfl, rfl, .stored hi h⟩
    | error f =>
      cases hf : f.isReported with
      | true =>
        simp only [hf, if_true]
        exact .inl ⟨.error, _, _, rfl, rfl, rfl, .error hi h hf⟩
      | false =>
        have hlarge : f = .tooLarge := by
          simpa [Database.Fault.isReported] using hf
        rw [hlarge]
        exact .inr ⟨rfl, rfl, rfl⟩

end Stage

end DeliveryWatch
