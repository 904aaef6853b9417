/-
Whole runs of the default pipeline are postings in a ledger.

* `step_looking`, `step_recording`, `step_storing` — the steps of a message on a database that is
  ready, as what they do to the ledger; `run_of_ready` — all of them;
* `handle_of_ready` — one message: its reply, and `Book.post` on the ledger;
* `Pipeline.handleAll` — messages that arrive one after another, each at its time;
* `handleAll_refines_book` — the same for all of them, whatever the ledger was before.

A message is accepted when a ping of its token waits at the moment of its lookup; nothing falls between
the steps of one message here.
-/
import DeliveryWatch.Proofs.Ledger.Book

namespace DeliveryWatch

open Database Ledger MailTable

/-! ### Envelopes whose header was read -/

namespace Envelope

@[simp] theorem data_opened (e : Envelope) : e.opened.data = e.data := by
  rw [opened]
  split
  · rfl
  · rfl

@[simp] theorem queueId_opened (e : Envelope) : e.opened.queueId = e.queueId := by
  rw [opened]
  split
  · rfl
  · rfl

@[simp] theorem queueId_suppress (e : Envelope) : e.suppress.queueId = e.queueId := rfl

theorem notes_opened {e : Envelope} (h : e.notes = []) :
    e.opened.notes = [] ∨ ∃ id, e.opened.notes = [(messageIdKey, .str id)] := by
  rw [opened]
  split
  · rename_i m _
    right
    refine ⟨m.messageId, ?_⟩
    rw [Stage.fillIn, annotate]
    simp only [h]
    rfl
  · exact .inl h

theorem isIgnored_opened {e : Envelope} (h : e.notes = []) : e.opened.isIgnored = false := by
  rw [isIgnored, note?]
  rcases notes_opened h with hn | ⟨id, hn⟩
  · rw [hn]
    rfl
  · rw [hn]
    rfl

theorem hasCell_opened {e : Envelope} (h : e.notes = []) : HasCell e.opened := by
  rw [HasCell, note?]
  rcases notes_opened h with hn | ⟨id, hn⟩
  · rw [hn]
    exact ⟨.null, rfl, nofun⟩
  · rw [hn]
    exact ⟨.text id, rfl, nofun⟩

end Envelope

theorem letter_opened (e : Envelope) : Letter.ofEnvelope e.opened = Letter.ofEnvelope e := by
  simp only [Letter.ofEnvelope]
  rw [Envelope.data_opened, Envelope.queueId_opened]

/-! ### Steps on a database that is ready -/

namespace Passage

variable {n : String} {db : Database} {p : PingTable}

theorem step_looking (h : Ready n db) (hn : statementName p.name = .ok n)
    (hf : p.field = tokenColumn) (now : Time) (token : String) (e : Envelope) :
    (looking token e).step p now db = (if (Book.ofDatabase n db).waits token then
      recording token e else storing e.suppress, db) := by
  simp only [step]
  rw [h.find_of_ready hn hf token]
  by_cases hw : (Book.ofDatabase n db).waits token = true
  · rw [if_pos hw, if_pos hw]
  · rw [if_neg hw, if_neg hw]

/-- A delivery is written to all lines of its token, seen or not. -/
theorem step_recording (h : Ready n db) (hn : statementName p.name = .ok n) (now : Time)
    (token : String) (e : Envelope) :
    ∃ db', (recording token e).step p now db = (storing e, db') ∧ Ready n db' ∧
      Book.ofDatabase n db' = (Book.ofDatabase n db).write (Stage.delivery token e.data now) ∧
      Frame n db db' := by
  obtain ⟨db', hrecord, hready, hbook, hframe⟩ := h.record_of_ready hn token e.data now
  refine ⟨db', ?_, hready, hbook, hframe⟩
  simp only [step]
  rw [hrecord]

theorem step_storing (h : Ready n db) (now : Time) {e : Envelope} (hi : e.isIgnored = false)
    (hq : e.queueId.isSome = true) (hcell : HasCell e) :
    ∃ db', (storing e).step p now db = (done (.ok (Reply.accepted e.queueId)) e, db') ∧
      Ready n db' ∧ Book.ofDatabase n db' = (Book.ofDatabase n db).keep e ∧
      Frame n db db' := by
  obtain ⟨db', hinsert, hready, hbook, hframe⟩ := h.insert_of_ready hq hcell
  refine ⟨db', ?_, hready, hbook, hframe⟩
  simp only [step]
  rw [hi, hinsert]
  rfl

/-- Where a ping of the token waits, writing to the lines of the token is writing to those that
wait. -/
theorem write_eq_post (h : Ready n db) {e : Envelope} {token : String} {now : Time}
    (he : e.token? = some token) (hw : (Book.ofDatabase n db).waits token = true) :
    ((Book.ofDatabase n db).write (Stage.delivery token e.data now)).keep e
      = (Book.ofDatabase n db).post now e := by
  have hlines : (Book.ofDatabase n db).pings.map (fun l =>
      if l.isOf token then l.receive (Stage.delivery token e.data now) else l)
      = (Book.ofDatabase n db).pings.map fun l =>
          if l.isWaiting token then l.receive (Stage.delivery token e.data now) else l := by
    refine List.map_congr_left ?_
    intro l hl
    rw [h.isOf_eq_isWaiting hw hl]
  rw [Book.post]
  rw [he]
  simp only
  rw [if_pos hw, ← hlines]
  rfl

theorem run_of_ready (h : Ready n db) (hn : statementName p.name = .ok n)
    (hf : p.field = tokenColumn) (now : Time) {e : Envelope} (hnotes : e.notes = [])
    (hq : e.queueId.isSome = true) :
    ∃ e' db', run p now 3 (start e) db = (done (.ok (Reply.accepted e.queueId)) e', db') ∧
      e'.isIgnored = !(Book.ofDatabase n db).accepts e ∧ Ready n db' ∧
      Book.ofDatabase n db' = (Book.ofDatabase n db).post now e ∧ Frame n db db' := by
  cases ht : e.token? with
  | none =>
    refine ⟨e.opened.suppress, db, ?_, ?_, h, ?_, Frame.refl n db⟩
    · rw [start_of_no_token ht, run_suppressed, Envelope.queueId_opened]
    · rw [Envelope.isIgnored_suppress, Book.accepts_of_none ht]
      rfl
    · rw [Book.post_of_none ht]
  | some token =>
    have hlook : run p now 3 (start e) db
        = run p now 2 (if (Book.ofDatabase n db).waits token then recording token e.opened
            else storing e.opened.suppress) db := by
      rw [start_of_token ht, run_succ, step_looking h hn hf]
    rw [hlook]
    by_cases hw : (Book.ofDatabase n db).waits token = true
    · -- the ping waits: the delivery is written, and the message is kept
      obtain ⟨db1, hrec, h1, hbook1, hframe1⟩ := step_recording h hn now token e.opened
      obtain ⟨db2, hstore, h2, hbook2, hframe2⟩ := step_storing (p := p) h1 now
        (Envelope.isIgnored_opened hnotes) (by rw [Envelope.queueId_opened]; exact hq)
        (Envelope.hasCell_opened hnotes)
      refine ⟨e.opened, db2, ?_, ?_, h2, ?_, hframe1.trans hframe2⟩
      · rw [if_pos hw, run_succ, hrec, run_storing, hstore, Envelope.queueId_opened]
      · rw [Envelope.isIgnored_opened hnotes, Book.accepts_of_some ht, hw]
        rfl
      · rw [← write_eq_post h ht hw, hbook2, hbook1, Envelope.data_opened]
        simp only [Book.keep]
        rw [letter_opened]
    · -- no ping waits: the message is suppressed, and nothing is written
      refine ⟨e.opened.suppress, db, ?_, ?_, h, ?_, Frame.refl n db⟩
      · rw [if_neg hw, run_suppressed, Envelope.queueId_opened]
      · rw [Bool.not_eq_true] at hw
        rw [Envelope.isIgnored_suppress, Book.accepts_of_some ht, hw]
        rfl
      · rw [Book.post_of_not_waits ht hw]

end Passage

/-! ### Messages one after another -/

theorem Reply.code_accepted (q : Option String) : (Reply.accepted q).code = 250 := by
  simp only [Reply.accepted]
  split
  · split
    · rfl
    · rfl
  · rfl

/-- The office at another time of day. -/
def Office.at (o : Office Premises) (now : Time) : Office Premises :=
  { o with scene := { o.scene with resources := { o.scene.resources with now := now } } }

/-- A message that arrives, and the time of its arrival. -/
structure Arrival where
  time : Time
  envelope : Envelope

namespace Pipeline

/-- Process a message that arrives. -/
def handle (pl : Pipeline Premises) (a : Arrival) (o : Office Premises) :
    Except Fault Reply × Office Premises :=
  let (r, _, o) := pl.process .saveMail a.envelope (o.at a.time)
  (r, o)

/-- Process messages one after another; nobody else works on the database. -/
def handleAll (pl : Pipeline Premises) :
    List Arrival → Office Premises → List (Except Fault Reply) × Office Premises
  | [], o => ([], o)
  | a :: rest, o =>
    let (r, o) := pl.handle a o
    let (rs, o) := handleAll pl rest o
    (r :: rs, o)

variable {pl : Pipeline Premises} {p : PingTable} {n : String}

/-- One message on a database that is ready: it is answered with a success, and posted. -/
theorem handle_of_ready (hpl : pl.stages = defaultStages p) (hn : statementName p.name = .ok n)
    (hf : p.field = tokenColumn) {o : Office Premises} (h : Ready n o.database) {a : Arrival}
    (hnotes : a.envelope.notes = []) (hq : a.envelope.queueId.isSome = true) :
    ∃ o', pl.handle a o = (.ok (Reply.accepted a.envelope.queueId), o') ∧ Ready n o'.database ∧
      Book.ofDatabase n o'.database = (Book.ofDatabase n o.database).post a.time a.envelope ∧
      Frame n o.database o'.database := by
  obtain ⟨r, e', o', hprocess, -, hrun⟩ := process_eq_run hpl a.envelope (o.at a.time)
  obtain ⟨e2, db', hrun', -, hready, hbook, hframe⟩ :=
    Passage.run_of_ready (p := p) h hn hf a.time hnotes hq
  have heq : (Passage.done r e', o'.database)
      = (Passage.done (.ok (Reply.accepted a.envelope.queueId)) e2, db') := hrun.symm.trans hrun'
  cases heq
  refine ⟨o', ?_, hready, hbook, hframe⟩
  rw [handle]
  rw [hprocess]

/-- Messages that arrive one after another are posted in the ledger one after another, whatever the
ledger was before, and every one of them is answered with a success. -/
theorem handleAll_of_ready (hpl : pl.stages = defaultStages p) (hn : statementName p.name = .ok n)
    (hf : p.field = tokenColumn) {arrivals : List Arrival}
    (hall : ∀ a ∈ arrivals, a.envelope.notes = [] ∧ a.envelope.queueId.isSome = true)
    {o : Office Premises} (h : Ready n o.database) :
    ∃ o', pl.handleAll arrivals o
        = (arrivals.map fun a => .ok (Reply.accepted a.envelope.queueId), o') ∧
      Ready n o'.database ∧
      Book.ofDatabase n o'.database
        = arrivals.foldl (fun b a => b.post a.time a.envelope) (Book.ofDatabase n o.database) ∧
      Frame n o.database o'.database := by
  -- the office that a message leaves is ready for the next one
  induction arrivals generalizing o with
  | nil => exact ⟨o, rfl, h, rfl, Frame.refl n _⟩
  | cons a rest ih =>
    obtain ⟨hnotes, hq⟩ := hall a List.mem_cons_self
    obtain ⟨o1, h1, hready1, hbook1, hframe1⟩ := handle_of_ready hpl hn hf h hnotes hq
    obtain ⟨o2, h2, hready2, hbook2, hframe2⟩ :=
      ih (fun b hb => hall b (List.mem_cons_of_mem a hb)) hready1
    refine ⟨o2, ?_, hready2, ?_, hframe1.trans hframe2⟩
    · rw [handleAll]
      rw [h1]
      simp only [h2]
      rfl
    · rw [hbook2, hbook1]
      rfl

/-! ### Activation -/

theorem resources_activateFilter (p : PingTable) (s : Scene Premises) :
    (Stage.activateFilter (p.store Premises.access) s).2.resources = s.resources := by
  unfold Stage.activateFilter
  have hvalidate : ∀ r : Premises, ((p.store Premises.access).validate r).resources = r := by
    intro r
    rw [PingTable.store]
    simp only
    split
    · rfl
    · rfl
  simp only
  split
  · rw [Stage.resources_settle, hvalidate]
    rfl
  · rw [Stage.resources_settle, hvalidate]
    rfl

theorem activateAll_cons_eq_ok {σ : Type} {stage : Stage σ} {rest : List (Stage σ)} {s s' : Scene σ} :
    activateAll (stage :: rest) s = (.ok (), s') ↔
      ∃ s1, stage.activate s = (.ok (), s1) ∧
        activateAll rest (s1.note .info ("Initialized stage " ++ stage.name)) = (.ok (), s') := by
  rw [activateAll]
  constructor
  · intro h
    split at h
    · rename_i u s1 h1
      exact ⟨s1, h1, h⟩
    · split at h
      · cases h
      · cases h
  · rintro ⟨s1, h1, h⟩
    rw [h1]
    exact h

/-- An activated default pipeline has made the table of mail. -/
theorem create_of_activate {pl' : Pipeline Premises} (hpl : pl.stages = defaultStages p)
    {s s' : Scene Premises} (h : pl.activate s = (.ok (), pl', s')) :
    pl'.stages = defaultStages p ∧
      MailTable.create s.resources.database = (.ok (), s'.resources.database) := by
  rw [activate] at h
  rw [hpl] at h
  split at h
  · rename_i s4 hall
    cases h
    refine ⟨rfl, ?_⟩
    rw [defaultStages] at hall
    -- the first stage does nothing, the second touches no database
    obtain ⟨s1, h1, hrest1⟩ := activateAll_cons_eq_ok.mp hall
    obtain ⟨s2, h2, hrest2⟩ := activateAll_cons_eq_ok.mp hrest1
    obtain ⟨s3, h3, hrest3⟩ := activateAll_cons_eq_ok.mp hrest2
    cases h1
    cases hrest3
    have hres : s2.resources = s.resources := by
      have := resources_activateFilter p
        (s.note .info ("Initialized stage " ++ (Stage.headers : Stage Premises).name))
      rw [show Stage.activateFilter _ _ = (.ok (), s2) from h2] at this
      exact this
    have hmail : Stage.activateMailBox Premises.access
        (s2.note .info ("Initialized stage " ++ Stage.filterName)) = (.ok (), s3) := h3
    rw [Stage.activateMailBox] at hmail
    split at hmail
    · rename_i db hdb
      cases hmail
      rw [← hres]
      exact hdb
    · cases hmail
  · cases h

/-- An activated default pipeline works on a database that is ready, with the ledger it had. -/
theorem ready_of_activate {pl' : Pipeline Premises} (hpl : pl.stages = defaultStages p)
    {s s' : Scene Premises} (h : pl.activate s = (.ok (), pl', s'))
    (hapart : sameName n MailTable.name = false)
    (hpings : ∃ t, s.resources.database.table? n = some t ∧ IsPings t)
    (hmail : ∀ t, s.resources.database.table? MailTable.name = some t → IsMail t) :
    pl'.stages = defaultStages p ∧ Ready n s'.resources.database ∧
      Book.ofDatabase n s'.resources.database = Book.ofDatabase n s.resources.database ∧
      Frame n s.resources.database s'.resources.database := by
  obtain ⟨hstages, hcreate⟩ := create_of_activate hpl h
  obtain ⟨⟨u, hu, hm, hrows⟩, hother⟩ := isMail_of_create hcreate hmail
  obtain ⟨t, ht, hp⟩ := hpings
  -- the only table that activation may have made is that of mail
  have hn : s'.resources.database.table? n = s.resources.database.table? n := by
    refine hother n ?_
    rw [sameName_comm]
    exact hapart
  have hrows : mailRows s'.resources.database = mailRows s.resources.database := by
    rw [mailRows]
    rw [hu]
    exact hrows
  refine ⟨hstages, ⟨⟨t, hn.trans ht, hp⟩, ⟨u, hu, hm⟩, hapart⟩, ?_, ?_, ?_⟩
  · simp only [Book.ofDatabase, pingsOf]
    rw [hn, mailOf_eq, mailOf_eq, hrows]
  · exact fun name _ hname => hother name hname
  · exact ⟨[], (List.append_nil _).trans hrows.symm⟩

/-- **Whole runs of the default pipeline refine the ledger.** The delivery of a message holds its delay and
the parts it splits into, as far as it can be split. -/
theorem handleAll_refines_book {table : String} {pl' : Pipeline Premises}
    (hplan : assemble (shippedStages Premises.access Premises.now { table := table })
      { table := table } = .ok pl)
    (hn : statementName table = .ok n) (hapart : sameName n MailTable.name = false)
    {s s' : Scene Premises}
    (hpings : ∃ t, s.resources.database.table? n = some t ∧ IsPings t)
    (hmail : ∀ t, s.resources.database.table? MailTable.name = some t → IsMail t)
    (hact : pl.activate s = (.ok (), pl', s')) (runs : Runs) (arrivals : List Arrival)
    (hall : ∀ a ∈ arrivals, a.envelope.notes = [] ∧ a.envelope.queueId.isSome = true) :
    ∃ o', pl'.handleAll arrivals ⟨s', runs⟩
        = (arrivals.map fun a => .ok (Reply.accepted a.envelope.queueId), o') ∧
      (∀ a ∈ arrivals, (Reply.accepted a.envelope.queueId).code = 250 ∧
        ∃ delay parts, Trace.messageDelay a.envelope.data = .ok delay ∧
          (Message.splitMessage a.envelope.data = .ok parts ∨
            ∃ fault, Message.splitMessage a.envelope.data = .error (fault, parts)) ∧
          ∀ token now, Stage.delivery token a.envelope.data now
            = ⟨token, delay, parts.header, parts.body, now⟩) ∧
      Book.ofDatabase n o'.database = arrivals.foldl (fun b a => b.post a.time a.envelope)
        (Book.ofDatabase n s.resources.database) ∧
      Frame n s.resources.database o'.database := by
  obtain ⟨p, hp, hstages⟩ := stages_of_assemble hplan
  obtain ⟨hname, hfield⟩ := names_of_describe? hp
  obtain ⟨hstages', hready, hbook, hframe⟩ := ready_of_activate hstages hact hapart hpings hmail
  rw [← hname] at hn
  obtain ⟨o', hrun, -, hbook', hframe'⟩ :=
    handleAll_of_ready hstages' hn hfield hall (o := ⟨s', runs⟩) hready
  refine ⟨o', hrun, ?_, ?_, hframe.trans hframe'⟩
  · intro a ha
    exact ⟨Reply.code_accepted _, Trace.exists_delivery_eq _⟩
  · rw [hbook', ← hbook]
    rfl

/-- Mail for a ping that comes twice is answered with a success twice, and kept once. -/
theorem handleAll_refines_book_twice :
    let s : Scene Premises := { resources := { database := Sample.database, now := Sample.noon } }
    let pl : Pipeline Premises := { stages := defaultStages Sample.pings }
    let arrivals : List Arrival := [⟨Sample.noon, Sample.letter⟩, ⟨Sample.noon, Sample.letter⟩]
    ∃ o', (pl.activate s).2.1.handleAll arrivals ⟨(pl.activate s).2.2, {}⟩
        = ([.ok (Reply.accepted (some "q")), .ok (Reply.accepted (some "q"))], o') ∧
      (Book.ofDatabase "pings" o'.database).mail = [Letter.ofEnvelope Sample.letter] := by
  intro s pl arrivals
  have hplan : assemble (shippedStages Premises.access Premises.now { table := "pings" })
      { table := "pings" } = .ok pl := by
    rw [assemble_default]
    rfl
  have hact : pl.activate s = (.ok (), (pl.activate s).2.1, (pl.activate s).2.2) := by rfl
  have hmail : ∀ t, s.resources.database.table? MailTable.name = some t → IsMail t := by
    rintro t ⟨⟩
    exact Sample.isMail_empty
  have hall : ∀ a ∈ arrivals, a.envelope.notes = [] ∧ a.envelope.queueId.isSome = true := by
    intro a ha
    have hletter : a = ⟨Sample.noon, Sample.letter⟩ := by simpa [arrivals] using ha
    rw [hletter]
    exact ⟨rfl, rfl⟩
  have hn : statementName "pings" = .ok "pings" := by decide
  obtain ⟨o', hrun, -, hbook, -⟩ := handleAll_refines_book hplan hn (by decide)
    ⟨Sample.table, rfl, Sample.isPings_table⟩ hmail hact {} arrivals hall
  refine ⟨o', hrun, ?_⟩
  rw [hbook]
  decide +kernel

end Pipeline

end DeliveryWatch
