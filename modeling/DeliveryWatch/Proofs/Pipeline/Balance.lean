/-
The books balance: what the default pipeline counts adds up, whatever happens to the database.

* `Balanced` — how the counts of so many messages have to rise together;
* `balanced_after` — what one message counts is balanced, by what the filter and the mail box make of it;
* `exists_process_default` — so a message takes a way through the filter, then one through the mail box,
  and no fault escapes;
* `Turn`, `Pipeline.serveAll` — messages one after another, with anything done to the database between
  them;
* `balanced_serveAll` — their counts are balanced, and all of them are answered.
-/
import DeliveryWatch.Proofs.Ledger.Mail
import DeliveryWatch.Proofs.Stage.Course

namespace DeliveryWatch

open Database Ledger Stage

/-! ### Counts -/

namespace Metrics

/-- How often the filter decided in this way. -/
def decided (d : Decision) (m : Metrics) : Nat := m.stages.decisions.count d

/-- Of how many messages this became at the mail box. -/
def became (w : Storing) (m : Metrics) : Nat := m.stages.storings.count w

/-- How many runs for mail that is to be saved succeeded, or did not. -/
def ended (succeeded : Bool) (m : Metrics) : Nat := m.runs.count (.saveMail, succeeded)

/-- How many delays were written back. -/
def delayed (m : Metrics) : Nat := m.stages.delays.length

/-- How many delays could not be written back. -/
def failed (m : Metrics) : Nat := m.stages.updateFailures

/-- How far a count rises. -/
def rise (count : Metrics → Nat) (m m' : Metrics) : Int := count m' - count m

/-- What one message counts, by what the filter and the mail box make of it. -/
def after (v : Verdict) (w : Storing) (m : Metrics) : Metrics where
  stages := { v.count m.stages with storings := (v.count m.stages).storings.add w }
  runs := m.runs.add (.saveMail, w != .error)

end Metrics

open Metrics

/-- How the counts of `n` messages rise together that add so many rows to the mail table. -/
structure Balanced (n : Nat) (rows : Int) (m m' : Metrics) : Prop where
  decided : rise (decided .accepted) m m' + rise (decided .noToken) m m'
    + rise (decided .notFound) m m' + rise (decided .lookupError) m m' = n
  ended : rise (ended true) m m' + rise (ended false) m m' = n
  stored : rise (became .stored) m m' = rows
  ignored : rise (became .ignored) m m' = rise (Metrics.decided .noToken) m m'
    + rise (Metrics.decided .notFound) m m' + rise (Metrics.decided .lookupError) m m'
  kept : rise (became .stored) m m' + rise (became .error) m m' = rise (Metrics.decided .accepted) m m'
  refused : rise (Metrics.ended false) m m' = rise (became .error) m m'
  delays : rise delayed m m' + rise failed m m' = rise (Metrics.decided .accepted) m m'

theorem balanced_refl (m : Metrics) : Balanced 0 0 m m := by
  constructor
  all_goals simp [rise]

/-- Counts that are balanced one after the other are balanced together. -/
theorem Balanced.trans {n k : Nat} {rows rows' : Int} {m m' m'' : Metrics} (h : Balanced n rows m m')
    (h' : Balanced k rows' m' m'') : Balanced (n + k) (rows + rows') m m'' := by
  obtain ⟨h1, h2, h3, h4, h5, h6, h7⟩ := h
  obtain ⟨h1', h2', h3', h4', h5', h6', h7'⟩ := h'
  simp only [rise] at *
  constructor
  all_goals
    simp only [rise]
    omega

section After

variable (v : Verdict) (w : Storing) (m : Metrics)

theorem rise_decided (d : Decision) :
    rise (Metrics.decided d) m (m.after v w) = if d = v.decision then 1 else 0 := by
  have hcount : Metrics.decided d (m.after v w)
      = Metrics.decided d m + if d = v.decision then 1 else 0 := by
    cases v with
    | _ => rfl
  rw [rise, hcount]
  split
  · omega
  · omega

theorem rise_became (x : Storing) :
    rise (became x) m (m.after v w) = if x = w then 1 else 0 := by
  have hcount : became x (m.after v w) = became x m + if x = w then 1 else 0 := by
    cases v with
    | _ => rfl
  rw [rise, hcount]
  split
  · omega
  · omega

theorem rise_ended (b : Bool) :
    rise (Metrics.ended b) m (m.after v w) = if b = (w != .error) then 1 else 0 := by
  have hcount : Metrics.ended b (m.after v w)
      = Metrics.ended b m + if (Task.saveMail, b) = (.saveMail, w != .error) then 1 else 0 := rfl
  rw [rise, hcount]
  simp only [Prod.mk.injEq, true_and]
  split
  · omega
  · omega

/-- Of an accepted message either a delay is written back, or a failure is counted. -/
theorem rise_delayed :
    rise delayed m (m.after v w) + rise failed m (m.after v w)
      = if v.decision = .accepted then 1 else 0 := by
  cases v with
  | written delay =>
    have hlength : delayed (m.after (.written delay) w) = delayed m + 1 := by
      simp [delayed, after, Verdict.count]
    have hfailed : failed (m.after (.written delay) w) = failed m := rfl
    simp only [rise, hlength, hfailed, Verdict.decision, if_true]
    omega
  | unwritten =>
    have hlength : delayed (m.after .unwritten w) = delayed m := rfl
    have hfailed : failed (m.after .unwritten w) = failed m + 1 := rfl
    simp only [rise, hlength, hfailed, Verdict.decision, if_true]
    omega
  | _ => simp [rise, delayed, failed, after, Verdict.count, Verdict.decision]

/-- **What one message counts is balanced**, if the mail box passes over exactly the messages that the
filter does not accept. -/
theorem balanced_after (h : w = .ignored ↔ v.decision ≠ .accepted) :
    Balanced 1 (if w = .stored then 1 else 0) m (m.after v w) := by
  constructor
  all_goals
    simp only [rise_decided, rise_became, rise_ended, rise_delayed]
    generalize v.decision = d at h
    -- an accepted message was stored or refused, any other was passed over
    cases d with
    | accepted =>
      cases w with
      | ignored => exact absurd rfl (h.mp rfl)
      | _ => decide
    | _ =>
      obtain rfl : w = .ignored := h.mpr (by decide)
      decide

end After

/-! ### One message -/

namespace Stage

variable {p : PingTable} {e : Envelope}

theorem Course.length_mailRows {r r' : Premises} {v : Verdict}
    (h : Course (p.store Premises.access) Premises.now e r v r') :
    (mailRows r'.database).length = (mailRows r.database).length := by
  rcases h.eq_or_written with rfl | ⟨token, k, db, -, hrecord, rfl⟩
  · rfl
  · exact length_mailRows_of_record hrecord

theorem Keeping.length_mailRows {db db' : Database} {w : Storing} (h : Keeping e db w db') :
    (mailRows db').length = (mailRows db).length + if w = .stored then 1 else 0 := by
  cases h with
  | ignored hi => rfl
  | stored hi hinsert =>
    obtain ⟨⟨r, hr⟩, -⟩ := exists_place_of_insert hinsert
    rw [hr, (Table.place_perm r _).length_eq]
    rfl
  | error hi hinsert hf => rfl

/-- Of the messages that come without annotations, those are to be ignored that the filter does not
accept. -/
theorem Verdict.isIgnored_apply (hnotes : e.notes = []) (v : Verdict) :
    (v.apply e.opened).isIgnored = true ↔ v.decision ≠ .accepted := by
  rw [apply]
  split
  · rename_i h
    rw [Envelope.isIgnored_opened hnotes]
    exact ⟨fun hfalse => absurd hfalse Bool.false_ne_true, fun hne => absurd h hne⟩
  · rename_i h
    exact ⟨fun _ => h, fun _ => Envelope.isIgnored_suppress _⟩

theorem exists_keeping_apply (hnotes : e.notes = []) (v : Verdict) (s : Scene Premises) :
    ∃ w db s', keep Premises.access (v.apply e.opened) s = (.ok (answer e.queueId w), s') ∧
      s'.resources = { s.resources with database := db } ∧
      s'.metrics = { s.metrics with storings := s.metrics.storings.add w } ∧
      Keeping (v.apply e.opened) s.resources.database w db := by
  rcases exists_keeping (v.apply e.opened) s with h | ⟨hi, hlarge, -⟩
  · rwa [Verdict.queueId_apply, Envelope.queueId_opened] at h
  · -- the id of such a message has a place in a cell
    have hv : v.decision = .accepted := by
      by_contra hne
      rw [(v.isIgnored_apply hnotes).mpr hne] at hi
      cases hi
    rw [Verdict.apply, if_pos hv] at hlarge
    exact absurd (isReported_of_insert (Envelope.hasCell_opened hnotes) hlarge) (by decide)

end Stage

namespace Pipeline

/-- What the last stage answers is the answer of the run, and decides how the run is counted. -/
theorem exists_processAll_last {σ : Type} (reply : Reply) {task : Task} {r : Reply} {stage : Stage σ}
    {e e' : Envelope} {o : Office σ} {s' : Scene σ}
    (h : stage.process task e o.scene = (.ok r, e', s')) :
    ∃ o', processAll task reply [stage] e o = (.ok r, e', o') ∧
      o'.scene.resources = s'.resources ∧
      o'.metrics = ⟨s'.metrics, o.runs.add (task, r.isOk)⟩ := by
  cases hok : r.isOk with
  | true => exact ⟨_, processAll_cons_of_ok h hok [], rfl, rfl⟩
  | false =>
    rw [processAll, h]
    simp only [hok]
    exact ⟨_, rfl, rfl, rfl⟩

variable {pl : Pipeline Premises} {p : PingTable} {e : Envelope}

/-- **A message takes a way through the filter and one through the mail box**, and no fault escapes. -/
theorem exists_process_default (hpl : pl.stages = defaultStages p) (hf : p.field = tokenColumn)
    (hnotes : e.notes = []) (o : Office Premises) : ∃ v w e' o',
      pl.process .saveMail e o = (.ok (answer e.queueId w), e', o') ∧
      o'.metrics = o.metrics.after v w ∧ (w = .ignored ↔ v.decision ≠ .accepted) ∧
      (mailRows o'.database).length
        = (mailRows o.database).length + if w = .stored then 1 else 0 := by
  have hdutiful : (p.store Premises.access).IsDutiful :=
    PingTable.isDutiful_store Premises.access (by rw [hf]; decide)
  obtain ⟨s1, hs1, hres1⟩ := readHeaders_eq e o.scene
  have hm1 := metrics_readHeaders e o.scene
  obtain ⟨v, r, s2, hs2, hres2, hm2, hcourse⟩ := exists_course Premises.now e.opened s1 hdutiful
  obtain ⟨w, db, s3, hs3, hres3, hm3, hkeeping⟩ := exists_keeping_apply hnotes v s2
  -- the three stages by what they do to the message, one after another
  have hheaders : (Stage.headers : Stage Premises).process .saveMail e o.scene
      = (.ok (Reply.accepted e.opened.queueId), e.opened, s1) := by
    simp only [Stage.headers, hs1]
  have hfilter : (tokenFilter (p.store Premises.access) Premises.now).process .saveMail e.opened s1
      = (.ok (Reply.accepted (v.apply e.opened).queueId), v.apply e.opened, s2) := by
    simp only [tokenFilter, hs2]
  have hmail : (mailBox Premises.access).process .saveMail (v.apply e.opened) s2
      = (.ok (answer e.queueId w), v.apply e.opened, s3) := by
    simp only [mailBox, hs3]
  obtain ⟨o', ho', hres, hmetrics⟩ := exists_processAll_last
    (Reply.accepted (v.apply e.opened).queueId) (o := { o with scene := s2 }) hmail
  refine ⟨v, w, v.apply e.opened, o', ?_, ?_, ?_, ?_⟩
  · rw [Pipeline.process, hpl, defaultStages, processAll_cons_of_ok hheaders (Reply.isOk_accepted _),
      processAll_cons_of_ok hfilter (Reply.isOk_accepted _), ho']
  · rw [hs1] at hm1
    rw [hmetrics, isOk_answer, hm3, hm2, hm1]
    rfl
  · rw [hkeeping.eq_ignored_iff, v.isIgnored_apply hnotes]
  · rw [Office.database, hres, hres3, hkeeping.length_mailRows, hres2, hcourse.length_mailRows, hres1]
    rfl

end Pipeline

/-! ### Messages one after another -/

/-- A message that arrives, and what happens to the database before. -/
structure Turn where
  before : Database → Database
  arrival : Arrival

/-- The office when the message of a turn arrives. -/
def Office.before (o : Office Premises) (t : Turn) : Office Premises :=
  { o with scene := { o.scene with resources :=
      { o.scene.resources with database := t.before o.database } } }

namespace Pipeline

/-- Serve the message of a turn: its answer, the rows that it adds to the mail table, and the office after
it. -/
def serve (pl : Pipeline Premises) (t : Turn) (o : Office Premises) :
    Except Fault Reply × Int × Office Premises :=
  let (r, o') := pl.handle t.arrival (o.before t)
  (r, (mailRows o'.database).length - (mailRows (o.before t).database).length, o')

/-- Serve messages one after another: their answers, the rows that they add, and the office after them. -/
def serveAll (pl : Pipeline Premises) :
    List Turn → Office Premises → List (Except Fault Reply) × Int × Office Premises
  | [], o => ([], 0, o)
  | t :: rest, o =>
    let (r, rows, o) := pl.serve t o
    let (rs, more, o) := serveAll pl rest o
    (r :: rs, rows + more, o)

variable {pl : Pipeline Premises} {p : PingTable}

/-- What one turn counts is balanced. -/
theorem exists_serve (hpl : pl.stages = defaultStages p) (hf : p.field = tokenColumn) {t : Turn}
    (hnotes : t.arrival.envelope.notes = []) (o : Office Premises) : ∃ w rows o',
      pl.serve t o = (.ok (answer t.arrival.envelope.queueId w), rows, o') ∧
      Balanced 1 rows o.metrics o'.metrics := by
  obtain ⟨v, w, e', o', hprocess, hmetrics, hw, hrows⟩ :=
    exists_process_default hpl hf hnotes ((o.before t).at t.arrival.time)
  -- the clock of the turn changes no table
  have hrise : ((mailRows o'.database).length : Int) - (mailRows (o.before t).database).length
      = if w = .stored then 1 else 0 := by
    have hbefore : ((o.before t).at t.arrival.time).database = (o.before t).database := rfl
    rw [hrows, hbefore]
    split
    · omega
    · omega
  refine ⟨w, if w = .stored then 1 else 0, o', ?_, ?_⟩
  · rw [← hrise, serve, handle]
    rw [hprocess]
  · rw [hmetrics]
    exact balanced_after v w o.metrics hw

/-- **The counts of all turns are balanced**, and every message is answered. -/
theorem exists_serveAll (hpl : pl.stages = defaultStages p) (hf : p.field = tokenColumn)
    {turns : List Turn} (hnotes : ∀ t ∈ turns, t.arrival.envelope.notes = []) (o : Office Premises) :
    ∃ ws rows o', pl.serveAll turns o
        = (List.zipWith (fun t w => .ok (answer t.arrival.envelope.queueId w)) turns ws, rows, o') ∧
      ws.length = turns.length ∧ Balanced turns.length rows o.metrics o'.metrics := by
  -- every turn starts where the one before it ended
  induction turns generalizing o with
  | nil => exact ⟨[], 0, o, rfl, rfl, balanced_refl o.metrics⟩
  | cons t rest ih =>
    obtain ⟨w, rows, o1, h1, hbalanced1⟩ := exists_serve hpl hf (hnotes t List.mem_cons_self) o
    obtain ⟨ws, more, o2, h2, hlength, hbalanced2⟩ :=
      ih (fun u hu => hnotes u (List.mem_cons_of_mem t hu)) o1
    refine ⟨w :: ws, rows + more, o2, ?_, congrArg Nat.succ hlength, ?_⟩
    · rw [serveAll]
      rw [h1]
      simp only [h2]
      rfl
    · rw [List.length_cons, Nat.add_comm]
      exact hbalanced1.trans hbalanced2

/-- **The books balance**: over any messages that come to the default pipeline one after another, whatever
is done to the database between them, what is counted adds up, and no fault escapes. -/
theorem balanced_serveAll {table : String}
    (h : assemble (shippedStages Premises.access Premises.now { table := table }) { table := table }
      = .ok pl)
    {turns : List Turn} (hnotes : ∀ t ∈ turns, t.arrival.envelope.notes = []) (o : Office Premises) :
    ∃ rs rows o', pl.serveAll turns o = (rs, rows, o') ∧ rs.length = turns.length ∧
      (∀ r ∈ rs, ∃ reply, r = .ok reply) ∧ Balanced turns.length rows o.metrics o'.metrics := by
  obtain ⟨p, hp, hpl⟩ := stages_of_assemble h
  have hf : p.field = tokenColumn := (names_of_describe? hp).2
  obtain ⟨ws, rows, o', hserve, hlength, hbalanced⟩ := exists_serveAll hpl hf hnotes o
  refine ⟨_, rows, o', hserve, ?_, ?_, hbalanced⟩
  · rw [List.length_zipWith, hlength, Nat.min_self]
  · intro r hr
    obtain ⟨i, hi, rfl⟩ := List.getElem_of_mem hr
    rw [List.getElem_zipWith]
    exact ⟨_, rfl⟩

/-- The same letter four times: for a ping that waits, once more, for a ping that waits where there is no
table of mail, and where there is no table at all. -/
def sampleTurns : List Turn :=
  [⟨id, ⟨Sample.noon, Sample.letter⟩⟩, ⟨id, ⟨Sample.noon, Sample.letter⟩⟩,
   ⟨fun _ => { tables := [Sample.table] }, ⟨Sample.noon, Sample.letter⟩⟩,
   ⟨fun _ => {}, ⟨Sample.noon, Sample.letter⟩⟩]

/-- Two of them are accepted, and one of these is stored. -/
theorem balanced_serveAll_unsettled :
    let pl : Pipeline Premises := { stages := defaultStages Sample.pings }
    let o : Office Premises := { scene := { resources := ⟨Sample.database, Sample.noon⟩ } }
    ∃ rs o', pl.serveAll sampleTurns o = (rs, 1, o') ∧ (∀ r ∈ rs, ∃ reply, r = .ok reply) ∧
      Balanced 4 1 o.metrics o'.metrics ∧
      Decision.all.map (fun d => Metrics.decided d o'.metrics) = [2, 0, 1, 1] ∧
      Storing.all.map (fun w => became w o'.metrics) = [1, 2, 1] := by
  intro pl o
  have hplan : assemble (shippedStages Premises.access Premises.now { table := "pings" })
      { table := "pings" } = .ok pl := by
    rw [assemble_default]
    rfl
  have hnotes : ∀ t ∈ sampleTurns, t.arrival.envelope.notes = [] := by decide
  obtain ⟨rs, rows, o', hserve, -, hreplies, hbalanced⟩ := balanced_serveAll hplan hnotes o
  -- the numbers are those of the run itself
  have hcounts : (pl.serveAll sampleTurns o).2.1 = 1 ∧
      Decision.all.map (fun d => Metrics.decided d (pl.serveAll sampleTurns o).2.2.metrics)
        = [2, 0, 1, 1] ∧
      Storing.all.map (fun w => became w (pl.serveAll sampleTurns o).2.2.metrics) = [1, 2, 1] := by
    decide +kernel
  rw [hserve] at hcounts
  obtain ⟨rfl, hdecided, hbecame⟩ := hcounts
  exact ⟨rs, o', hserve, hreplies, hbalanced, hdecided, hbecame⟩

end Pipeline

end DeliveryWatch
