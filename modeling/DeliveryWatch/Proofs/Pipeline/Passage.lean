/-
The way of a message through the default pipeline, in the steps that other messages can fall between.

* `Passage` — where a message stands: before the lookup of its token, before its delivery is written
  back, before it is stored, or done;
* `Passage.step` — the next step, which is one statement on the database;
* `process_eq_run` — a message that the pipeline processes alone takes these steps one after another.

What happens before the lookup touches no database: the header is read, and the token is taken from
the subject.
-/
import DeliveryWatch.Pipeline.Assembly
import DeliveryWatch.Proofs.Ledger.Described
import Mathlib.Data.List.Basic

namespace DeliveryWatch

open Database Ledger

/-- The envelope after its header was read. -/
def Envelope.opened (e : Envelope) : Envelope :=
  match Message.readMetadata (.text e.data) with
  | .ok m => Stage.fillIn m e
  | .error _ => e

/-- The token that a message carries in its subject, once its header was read. -/
def Envelope.token? (e : Envelope) : Option String := Ping.token? e.opened.subject

/-- Where a message stands on its way through the default pipeline. -/
inductive Passage
  /-- Before the lookup of its token. -/
  | looking (token : String) (e : Envelope)
  /-- Its token was found waiting; its delivery is to be written back. -/
  | recording (token : String) (e : Envelope)
  /-- Before it is stored, or passed over. -/
  | storing (e : Envelope)
  | done (result : Except Fault Reply) (e : Envelope)

namespace Passage

/-- Where a message stands whose header was read. -/
def enter (e : Envelope) : Passage :=
  match Ping.token? e.subject with
  | some token => looking token e
  | none => storing e.suppress

/-- Where a message stands when it comes to its token. -/
def start (e : Envelope) : Passage := enter e.opened

theorem start_of_token {e : Envelope} {token : String} (h : e.token? = some token) :
    start e = looking token e.opened := by
  have hsubject : Ping.token? e.opened.subject = some token := h
  rw [start, enter, hsubject]

theorem start_of_no_token {e : Envelope} (h : e.token? = none) :
    start e = storing e.opened.suppress := by
  have hsubject : Ping.token? e.opened.subject = none := h
  rw [start, enter, hsubject]

/-- The next step of a message, one statement on the database. -/
def step (p : PingTable) (now : Time) : Passage → Database → Passage × Database
  | looking token e, db =>
    match p.find token db with
    | .ok (some _) => (recording token e, db)
    | .ok none => (storing e.suppress, db)
    | .error (.lookup _) => (storing e.suppress, db)
    | .error f => (done (.error f) e, db)
  | recording token e, db =>
    match p.record (Stage.delivery token e.data now) db with
    | .ok (db, _) => (storing e, db)
    | .error (.update _) => (storing e, db)
    | .error f => (done (.error f) e, db)
  | storing e, db =>
    if e.isIgnored then (done (.ok (Reply.accepted e.queueId)) e, db)
    else match MailTable.insert db e with
      | .ok db => (done (.ok (Reply.accepted e.queueId)) e, db)
      | .error f =>
        (done (if f.isReported then .ok (.temporary "Storage error") else .error .tooLarge) e, db)
  | done r e, db => (done r e, db)

/-- Where a message stands when the filter is through with it. -/
def filtered (e : Envelope) : Except Fault Unit → Passage
  | .ok _ => storing e
  | .error f => done (.error f) e

/-- So many steps of a message with nothing between them. -/
def run (p : PingTable) (now : Time) : Nat → Passage → Database → Passage × Database
  | 0, x, db => (x, db)
  | n + 1, x, db => run p now n (x.step p now db).1 (x.step p now db).2

variable (p : PingTable) (now : Time)

@[simp] theorem run_done (n : Nat) (r : Except Fault Reply) (e : Envelope) (db : Database) :
    run p now n (done r e) db = (done r e, db) := by
  induction n with
  | zero => rfl
  | succ n ih => exact ih

theorem run_succ (n : Nat) (x : Passage) (db : Database) :
    run p now (n + 1) x db = run p now n (x.step p now db).1 (x.step p now db).2 := rfl

theorem run_add (m n : Nat) (x : Passage) (db : Database) :
    run p now (m + n) x db = run p now n (run p now m x db).1 (run p now m x db).2 := by
  -- a run goes on from where its first step leads, so both are generalized
  induction m generalizing x db with
  | zero =>
    rw [Nat.zero_add]
    rfl
  | succ m ih =>
    rw [Nat.succ_add]
    exact ih _ _

/-- A message that is about to be stored is done after the next step. -/
theorem run_storing (n : Nat) (e : Envelope) (db : Database) :
    run p now (n + 1) (storing e) db = (storing e).step p now db := by
  have hdone : ∃ r db', (storing e).step p now db = (done r e, db') := by
    delta step
    simp only
    split
    · exact ⟨_, _, rfl⟩
    · split
      · exact ⟨_, _, rfl⟩
      · exact ⟨_, _, rfl⟩
  obtain ⟨r, db', h⟩ := hdone
  rw [run_succ, h]
  exact run_done p now n r e db'

variable {p now} {token : String} {db : Database}

theorem step_of_found {ping : Ping} (h : p.find token db = .ok (some ping)) (e : Envelope) :
    (looking token e).step p now db = (recording token e, db) := by
  delta step
  simp only [h]

theorem step_of_not_found (h : p.find token db = .ok none) (e : Envelope) :
    (looking token e).step p now db = (storing e.suppress, db) := by
  delta step
  simp only [h]

theorem step_ignored (now : Time) {e : Envelope} (hi : e.isIgnored = true) (db : Database) :
    (storing e).step p now db = (done (.ok (Reply.accepted e.queueId)) e, db) := by
  delta step
  simp only
  rw [if_pos hi]

theorem run_suppressed (n : Nat) (e : Envelope) :
    run p now (n + 1) (storing e.suppress) db
      = (done (.ok (Reply.accepted e.queueId)) e.suppress, db) := by
  rw [run_storing, step_ignored now (Envelope.isIgnored_suppress e)]
  rfl

end Passage

/-! ### Faults of the store -/

/-- A value that cannot be shown is a fault that nobody expects. -/
theorem Ledger.other_of_shownValue {field : String} {v : Value} {f : Fault}
    (h : shownValue field v = .error f) : ∃ kind text, f = .other kind text := by
  simp only [shownValue] at h
  split at h
  · split at h
    · cases h
    · split at h
      · cases h
      · cases h
        exact ⟨_, _, rfl⟩
    · cases h
      exact ⟨_, _, rfl⟩
  · cases h

theorem Ledger.PingTable.isStage_of_find {p : PingTable} {token : String} {db : Database} {f : Fault}
    (h : p.find token db = .error f) : f.isStage = false := by
  rw [find] at h
  split at h
  · cases h
    rw [statementFault]
    split
    · rfl
    · rfl
  · cases h
  · rcases Outcome.bind_eq_error.mp h with h | ⟨shown, -, h⟩
    · obtain ⟨kind, text, rfl⟩ := other_of_shownValue h
      rfl
    · cases h

theorem Ledger.PingTable.isStage_of_record {p : PingTable} {d : Delivery} {db : Database} {f : Fault}
    (h : p.record d db = .error f) : f.isStage = false := by
  rw [record] at h
  split at h
  · cases h
  · cases h
    rw [statementFault]
    split
    · rfl
    · rfl

/-! ### The stages take these steps -/

namespace Stage

theorem token_delivery (token data : String) (now : Time) :
    (delivery token data now).token = token := rfl

theorem resources_settle {σ α : Type} (r : Report σ α) (s : Scene σ) :
    (settle r s).resources = r.resources := by
  -- an entry of the log leaves the resources alone
  refine List.foldlRecOn (motive := fun t : Scene σ => t.resources = r.resources) r.log _ rfl ?_
  intro t ht entry _
  exact ht

theorem readHeaders_eq {σ : Type} (e : Envelope) (s : Scene σ) :
    ∃ s', readHeaders e s = (e.opened, s') ∧ s'.resources = s.resources := by
  delta readHeaders Envelope.opened
  cases Message.readMetadata (.text e.data) with
  | error f =>
    refine ⟨_, rfl, ?_⟩
    simp only [noteUnreadable]
    split
    · rfl
    · rfl
  | ok m =>
    refine ⟨_, rfl, ?_⟩
    split
    · rfl
    · rfl

section AnyStore

variable {σ : Type} (store : Store σ) (clock : σ → Time) (token : String) (e : Envelope)
  (s : Scene σ)

/-- What becomes of a write-back: a fault that the store reports is passed over. -/
def tolerated : Except Fault Nat → Except Fault Unit
  | .ok _ => .ok ()
  | .error (.update _) => .ok ()
  | .error f => .error f

/-- A delivery is written back by one operation of the store. -/
theorem recordDelivery_eq :
    ∃ s', recordDelivery store clock token e s =
        (tolerated (store.record (delivery token e.data (clock s.resources)) s.resources).result,
          s') ∧
      s'.resources
        = (store.record (delivery token e.data (clock s.resources)) s.resources).resources := by
  rw [recordDelivery]
  -- the account of a message that cannot be split goes to the log only
  cases (recordedParts e.data).2
  all_goals
    simp only [Scene.resources_note]
    cases (store.record (delivery token e.data (clock s.resources)) s.resources).result with
    | ok n => exact ⟨_, rfl, resources_settle _ _⟩
    | error f =>
      cases f with
      | update text => exact ⟨_, rfl, resources_settle _ _⟩
      | _ => exact ⟨_, rfl, resources_settle _ _⟩

end AnyStore

variable (p : PingTable)

theorem isStage_of_ok {α : Type} (a : α) :
    ∀ f, (.ok a : Except Fault α) = .error f → f.isStage = false := by
  intro f h
  cases h

theorem isStage_of_error {α : Type} {f : Fault} (hf : f.isStage = false) :
    ∀ g, (.error f : Except Fault α) = .error g → g.isStage = false := by
  intro g h
  cases h
  exact hf

theorem step_storing (e : Envelope) (s : Scene Premises) :
    ∃ r s', keep Premises.access e s = (r, s') ∧ s'.resources.now = s.resources.now ∧
      (Passage.storing e).step p s.resources.now s.resources.database
        = (.done r e, s'.resources.database) ∧
      ∀ f, r = .error f → f.isStage = false := by
  have hget : Premises.access.get s.resources = s.resources.database := rfl
  simp only [Passage.step, keep, hget]
  by_cases hi : e.isIgnored = true
  · simp only [hi, if_true]
    exact ⟨_, _, rfl, rfl, rfl, isStage_of_ok _⟩
  · simp only [hi]
    cases MailTable.insert s.resources.database e with
    | ok db => exact ⟨_, _, rfl, rfl, rfl, isStage_of_ok _⟩
    | error f =>
      -- the mail box answers what the database reports, and only other faults come out
      by_cases hf : f.isReported = true
      · simp only [hf, if_true]
        exact ⟨_, _, rfl, rfl, rfl, isStage_of_ok _⟩
      · simp only [hf]
        exact ⟨_, _, rfl, rfl, rfl, isStage_of_error rfl⟩

theorem step_recording (token : String) (e : Envelope) (s : Scene Premises) :
    ∃ r s', recordDelivery (p.store Premises.access) Premises.now token e s = (r, s') ∧
      s'.resources.now = s.resources.now ∧
      (Passage.recording token e).step p s.resources.now s.resources.database =
        (.filtered e r, s'.resources.database) ∧
      ∀ f, r = .error f → f.isStage = false := by
  obtain ⟨s', heq, hs'⟩ := recordDelivery_eq (p.store Premises.access) Premises.now token e s
  refine ⟨_, s', heq, ?_⟩
  rw [hs']
  simp only [Passage.step, PingTable.store]
  cases hr : p.record (delivery token e.data s.resources.now) s.resources.database with
  | ok res =>
    obtain ⟨db, n⟩ := res
    have hr' : p.record (delivery token e.data s.resources.now)
        (Premises.access.get s.resources) = .ok (db, n) := hr
    rw [hr']
    cases n with
    | zero => exact ⟨rfl, rfl, isStage_of_ok _⟩
    | succ n => exact ⟨rfl, rfl, isStage_of_ok _⟩
  | error f =>
    have hr' : p.record (delivery token e.data s.resources.now)
        (Premises.access.get s.resources) = .error f := hr
    rw [hr']
    have hstage := PingTable.isStage_of_record hr
    -- only an account of the update is kept to the filter itself
    cases f with
    | update text => exact ⟨rfl, rfl, isStage_of_ok _⟩
    | _ => exact ⟨rfl, rfl, isStage_of_error hstage⟩

theorem run_filter (e : Envelope) (s : Scene Premises) :
    ∃ r e' s', filter (p.store Premises.access) Premises.now e s = (r, e', s') ∧
      s'.resources.now = s.resources.now ∧
      (∃ n, n ≤ 2 ∧ Passage.run p s.resources.now n (.enter e) s.resources.database =
        (.filtered e' r, s'.resources.database)) ∧
      ∀ f, r = .error f → f.isStage = false := by
  rw [filter, Passage.enter]
  -- as many steps as the filter has calls to make
  cases Ping.token? e.subject with
  | none => exact ⟨_, _, _, rfl, rfl, ⟨0, by omega, rfl⟩, isStage_of_ok _⟩
  | some token =>
    simp only [PingTable.store, settle, List.foldl_nil]
    have hstep : (Passage.looking token e).step p s.resources.now s.resources.database =
        match p.find token s.resources.database with
        | .ok (some _) => (.recording token e, s.resources.database)
        | .ok none => (.storing e.suppress, s.resources.database)
        | .error (.lookup _) => (.storing e.suppress, s.resources.database)
        | .error f => (.done (.error f) e, s.resources.database) := rfl
    cases hf : p.find token s.resources.database with
    | ok found =>
      have hf' : p.find token (Premises.access.get s.resources) = .ok found := hf
      rw [hf] at hstep
      rw [hf']
      cases found with
      | none =>
        refine ⟨_, _, _, rfl, rfl, ⟨1, by omega, ?_⟩, isStage_of_ok _⟩
        exact hstep
      | some ping =>
        obtain ⟨r, s', heq, hnow, hrec, hstage⟩ :=
          step_recording p token e (s.countDecision .accepted)
        refine ⟨r, e, s', ?_, hnow, ⟨2, by omega, ?_⟩, hstage⟩
        · exact congrArg (fun x => (x.1, e, x.2)) heq
        · show Passage.run p _ 1 _ _ = _
          rw [hstep]
          exact hrec
    | error f =>
      have hf' : p.find token (Premises.access.get s.resources) = .error f := hf
      have hstage := PingTable.isStage_of_find hf
      rw [hf] at hstep
      rw [hf']
      cases f with
      | lookup text =>
        refine ⟨_, _, _, rfl, rfl, ⟨1, by omega, ?_⟩, isStage_of_ok _⟩
        exact hstep
      | _ =>
        refine ⟨_, _, _, rfl, rfl, ⟨1, by omega, ?_⟩, isStage_of_error hstage⟩
        exact hstep

end Stage

/-! ### The default pipeline -/

/-- The stages of the default plan, over a table of pings. -/
def defaultStages (p : PingTable) : List (Stage Premises) :=
  [Stage.headers, Stage.tokenFilter (p.store Premises.access) Premises.now,
    Stage.mailBox Premises.access]

/-- The stage names of the default plan. -/
theorem stageNames_default (table field : String) :
    Plan.stageNames { table := table, field := field } = ["HeadersParser", "GuidFilter", "MailStore"] := by
  have h : ∀ t f, Plan.stageNames { table := t, field := f } = Plan.stageNames {} := by
    intro t f
    rfl
  rw [h]
  rfl

/-- The default plan makes the default stages, unless a name is no plain identifier. -/
theorem assemble_default (table field : String) :
    assemble (shippedStages Premises.access Premises.now { table := table, field := field })
      { table := table, field := field } =
    match PingTable.describe? (some table) (some field) with
    | .ok p => .ok { stages := defaultStages p }
    | .error f => .error (.name f) := by
  have hkeys : Registry.key "HeadersParser" = "headersparser" ∧
      Registry.key "GuidFilter" = "guidfilter" ∧ Registry.key "MailStore" = "mailstore" := by
    decide +kernel
  rw [assemble]
  rw [stageNames_default]
  unfold Registry.make Registry.lookup Registry.find? Registry.keyOf
  simp only [List.mapM_cons, List.mapM_nil, Option.getD_some, hkeys, shippedStages]
  cases PingTable.describe? (some table) (some field) with
  | ok p => rfl
  | error f => rfl

/-- A pipeline of the default plan has the default stages, over the table of the configured names. -/
theorem stages_of_assemble {table field : String} {pl : Pipeline Premises}
    (h : assemble (shippedStages Premises.access Premises.now { table := table, field := field })
      { table := table, field := field } = .ok pl) :
    ∃ p, PingTable.describe? (some table) (some field) = .ok p ∧ pl.stages = defaultStages p := by
  rw [assemble_default] at h
  cases hp : PingTable.describe? (some table) (some field) with
  | error f =>
    rw [hp] at h
    cases h
  | ok p =>
    rw [hp] at h
    cases h
    exact ⟨p, rfl, rfl⟩

/-! ### Stages one after another -/

namespace Pipeline

variable {σ : Type} {task : Task} {reply : Reply} {stage : Stage σ} {e e' : Envelope} {o : Office σ}
  {s' : Scene σ}

theorem processAll_cons_of_ok {r : Reply} (h : stage.process task e o.scene = (.ok r, e', s'))
    (hr : r.isOk = true) (rest : List (Stage σ)) :
    processAll task reply (stage :: rest) e o
      = processAll task r rest e' { o with scene := s' } := by
  rw [processAll, h]
  simp only [hr, if_true]

/-- A fault that no stage reports ends the run as it is. -/
theorem processAll_cons_of_error {f : Fault}
    (h : stage.process task e o.scene = (.error f, e', s')) (hf : f.isStage = false)
    (rest : List (Stage σ)) :
    processAll task reply (stage :: rest) e o = (.error f, e', { o with scene := s' }) := by
  rw [processAll, h]
  simp only [hf, Bool.false_eq_true, if_false]

theorem exists_processAll_singleton {r : Except Fault Reply}
    (h : stage.process task e o.scene = (r, e', s')) (hr : ∀ f, r = .error f → f.isStage = false) :
    ∃ o', processAll task reply [stage] e o = (r, e', o') ∧ o'.scene.resources = s'.resources := by
  cases r with
  | error f => exact ⟨_, processAll_cons_of_error h (hr f rfl) [], rfl⟩
  | ok r =>
    by_cases hok : r.isOk = true
    · exact ⟨_, processAll_cons_of_ok h hok [], rfl⟩
    · rw [processAll, h]
      simp only [hok]
      exact ⟨_, rfl, rfl⟩

end Pipeline

/-! ### The default pipeline processes a message -/

/-- The database that an office works on. -/
def Office.database (o : Office Premises) : Database := o.scene.resources.database

/-- A message that the pipeline processes alone takes its steps one after another. -/
theorem process_eq_run {pl : Pipeline Premises} {p : PingTable} (h : pl.stages = defaultStages p)
    (e : Envelope) (o : Office Premises) :
    ∃ r e' o', pl.process .saveMail e o = (r, e', o') ∧
      o'.scene.resources.now = o.scene.resources.now ∧
      Passage.run p o.scene.resources.now 3 (.start e) o.database = (.done r e', o'.database) := by
  obtain ⟨s1, hs1, hres1⟩ := Stage.readHeaders_eq e o.scene
  obtain ⟨r, e2, s2, hs2, hnow2, ⟨n, hn, hrun⟩, hstage⟩ := Stage.run_filter p e.opened s1
  rw [hres1] at hrun hnow2
  have hheaders : (Stage.headers : Stage Premises).process .saveMail e o.scene
      = (.ok (Reply.accepted e.opened.queueId), e.opened, s1) := by
    simp only [Stage.headers, hs1]
  rw [Pipeline.process, h, defaultStages,
    Pipeline.processAll_cons_of_ok hheaders (Reply.isOk_accepted _)]
  -- the filter takes at most two of the three steps; what is left begins with the mail box
  obtain ⟨k, hk⟩ : ∃ k, 3 = n + (k + 1) := ⟨2 - n, by omega⟩
  have hrun3 : Passage.run p o.scene.resources.now 3 (.start e) o.database
      = Passage.run p o.scene.resources.now (k + 1) (.filtered e2 r) s2.resources.database := by
    rw [hk, Passage.run_add]
    show Passage.run p _ _ (Passage.run p _ n (.enter e.opened) o.scene.resources.database).1
      (Passage.run p _ n (.enter e.opened) o.scene.resources.database).2 = _
    rw [hrun]
  rw [hrun3]
  cases r with
  | error f =>
    have hfilter : (Stage.tokenFilter (p.store Premises.access) Premises.now).process .saveMail
        e.opened s1 = (.error f, e2, s2) := by
      simp only [Stage.tokenFilter, hs2]
    exact ⟨_, _, _, Pipeline.processAll_cons_of_error hfilter (hstage f rfl) _, hnow2,
      Passage.run_done p _ _ _ _ _⟩
  | ok u =>
    have hfilter : (Stage.tokenFilter (p.store Premises.access) Premises.now).process .saveMail
        e.opened s1 = (.ok (Reply.accepted e2.queueId), e2, s2) := by
      simp only [Stage.tokenFilter, hs2]
    obtain ⟨r3, s3, hs3, hnow3, hstep3, hstage3⟩ := Stage.step_storing p e2 s2
    have hmail : (Stage.mailBox Premises.access).process .saveMail e2 s2 = (r3, e2, s3) := by
      simp only [Stage.mailBox, hs3]
    rw [Pipeline.processAll_cons_of_ok hfilter (Reply.isOk_accepted _)]
    obtain ⟨o', ho', hres⟩ : ∃ o', Pipeline.processAll .saveMail (Reply.accepted e2.queueId)
        [Stage.mailBox Premises.access] e2 { o with scene := s2 } = (r3, e2, o') ∧
          o'.scene.resources = s3.resources :=
      Pipeline.exists_processAll_singleton hmail hstage3
    refine ⟨r3, e2, o', ho', ?_, ?_⟩
    · rw [hres, hnow3, hnow2]
    · rw [Passage.filtered, Passage.run_storing, ← hnow2, hstep3, Office.database, hres]

end DeliveryWatch
