/-
Temporary failures of the default pipeline, on any database whatsoever.

* `find_of_record` — a ping whose delivery was written back is found no more;
* `run_of_temporary` — a temporary failure comes from the mail box alone, after the delivery was
  written back, or after this failed;
* `temporary_failure_iff` — so a temporary failure leaves the database as it was exactly if the
  write-back failed too. If it did not, the ping is spent, and whoever sends the message again is told
  that it was taken, and it is dropped.
-/
import DeliveryWatch.Proofs.Ledger.Contract
import DeliveryWatch.Proofs.Pipeline.Posting

namespace DeliveryWatch

open Database Ledger Outcome

/-! ### Pings that are spent -/

namespace Ledger.PingTable

variable {p : PingTable} {token : String} {db db' : Database}

/-- The mark is written as seen, and seen is not what a lookup asks for, whatever type its column
has. -/
theorem seen_written (d : Delivery) (c : Column) (h : sameName c.name seenColumn = true) :
    Table.given? (written d) c = some (.int 1) := by
  rw [Table.given?]
  have hname : ∀ name, sameName name c.name = sameName name seenColumn :=
    fun name => sameName_congr_right h name
  have h1 : sameName "time_taken" seenColumn = false := by decide
  have h2 : sameName "header" seenColumn = false := by decide
  have h3 : sameName "body" seenColumn = false := by decide
  have h4 : sameName receivedColumn seenColumn = false := by decide
  simp [written, hname, h1, h2, h3, h4]

theorem seen_disagrees (a : Affinity) : a.agrees (a.store (.int 1)) (.int 0) = false := by
  cases a with
  | integer => rfl
  | text => rfl
  | blob => rfl
  | real => rfl
  | numeric => rfl

/-- A ping whose delivery was written back is found no more, as long as nobody else changes the
table. -/
theorem find_of_record {d : Delivery} (hd : d.token = token) {k : Nat} {found : Option Ping}
    (hfind : p.find token db = .ok found) (h : p.record d db = .ok (db', k)) {n : String}
    (hn : statementName p.name = .ok n) {later : Database} (hlater : later.table? n = db'.table? n) :
    p.find token later = .ok none := by
  obtain ⟨m, field, v, hm, hfield, hfirst, -⟩ := select_of_find hfind
  obtain ⟨m', hm', hchange⟩ := change_of_record h
  cases hm.symm.trans hn
  cases hm'.symm.trans hn
  obtain ⟨t, t', ht, ht', rfl⟩ := change_eq_ok.mp hchange
  rw [first?_of_table? ht] at hfirst
  rw [hd] at ht'
  -- the row that was found is of the token, so it was changed and does not meet the condition now
  have hnone : t'.first? field (unseen token) = .ok none :=
    Table.first?_change (fun c hc => seen_written d c hc) seen_disagrees hfirst ht'
  have hname : sameName t'.name n = true := by
    obtain ⟨-, -, -, -, ⟨rows, -, rfl⟩, -⟩ := Table.change_eq_ok.mp ht'
    show sameName t.name n = true
    exact sameName_of_table? ht
  have hselect : p.select token later = .ok none := by
    rw [select]
    rw [hm, hfield]
    show later.first? n field (unseen token) = .ok none
    rw [first?_of_table? (hlater.trans (table?_put ht hname)), hnone]
  rw [find]
  rw [hselect]

theorem table?_of_record {d : Delivery} (hd : d.token = token) {k : Nat} {ping : Ping}
    (hfind : p.find token db = .ok (some ping)) (h : p.record d db = .ok (db', k)) {n : String}
    (hn : statementName p.name = .ok n) : db'.table? n ≠ db.table? n := by
  intro heq
  have hnone := find_of_record hd hfind h hn heq.symm
  rw [hfind] at hnone
  cases hnone

theorem table?_of_record_other {d : Delivery} {k : Nat} (h : p.record d db = .ok (db', k))
    {n : String} (hn : statementName p.name = .ok n) {name : String}
    (hother : sameName n name = false) : db'.table? name = db.table? name := by
  obtain ⟨m, hm, hchange⟩ := change_of_record h
  cases hm.symm.trans hn
  obtain ⟨t, t', ht, ht', rfl⟩ := change_eq_ok.mp hchange
  obtain ⟨-, -, -, -, ⟨rows, -, rfl⟩, -⟩ := Table.change_eq_ok.mp ht'
  refine table?_put_other db ?_
  show sameName t.name name = false
  rw [sameName_congr (sameName_of_table? ht)]
  exact hother

theorem find_congr {n : String} (hn : statementName p.name = .ok n)
    (h : db'.table? n = db.table? n) : p.find token db' = p.find token db := by
  have hselect : p.select token db' = p.select token db := by
    simp only [select]
    rw [hn]
    cases statementName p.field with
    | error f => rfl
    | ok field => exact first?_congr h field _
  simp only [find]
  rw [hselect]

/-- A delivery of the pipeline is written back, or the database refuses it: no number in it is too
large. -/
theorem update_of_record {data : String} {now : Time} {f : Fault}
    (h : p.record (Stage.delivery token data now) db = .error f) : ∃ text, f = .update text := by
  rcases record_eq_error h with haccount | ⟨-, hupdate⟩
  · exact haccount
  · have hfits : fitsCell (Stage.delivery token data now).delay = true :=
      Trace.fitsCell_recordedDelay data
    rw [(update_eq_tooLarge.mp hupdate).1] at hfits
    cases hfits

end Ledger.PingTable

/-! ### Where temporary failures come from -/

namespace Passage

variable {p : PingTable} {now : Time} {e e' : Envelope} {db db' : Database} {reply : Reply}

/-- A message that is stored or passed over fails for a while only if the database refuses it. -/
theorem step_of_temporary (h : (storing e).step p now db = (done (.ok reply) e', db'))
    (h451 : reply.code = 451) :
    e' = e ∧ db' = db ∧ e.isIgnored = false ∧
      ∃ f, MailTable.insert db e = .error f ∧ f.isReported = true := by
  simp only [step] at h
  split at h
  -- a message that is passed over or kept is answered with a success
  · cases h
    rw [Reply.code_accepted] at h451
    cases h451
  · rename_i hi
    rw [Bool.not_eq_true] at hi
    split at h
    · cases h
      rw [Reply.code_accepted] at h451
      cases h451
    · rename_i f hf
      by_cases hr : f.isReported = true
      · rw [if_pos hr] at h
        cases h
        exact ⟨rfl, rfl, hi, f, hf, hr⟩
      · rw [if_neg hr] at h
        cases h

/-- So does one that is recorded before, whether its delivery can be written or not. -/
theorem run_recording_of_temporary {token : String}
    (h : run p now 2 (recording token e) db = (done (.ok reply) e', db')) (h451 : reply.code = 451) :
    e' = e ∧ e.isIgnored = false ∧
      (∃ f, MailTable.insert db' e = .error f ∧ f.isReported = true) ∧
      ((∃ k, p.record (Stage.delivery token e.data now) db = .ok (db', k)) ∨
        (∃ text, p.record (Stage.delivery token e.data now) db = .error (.update text)) ∧
          db' = db) := by
  rw [run_succ] at h
  simp only [step] at h
  -- whether the delivery was written or refused, the mail box has the last word
  cases hr : p.record (Stage.delivery token e.data now) db with
  | ok res =>
    obtain ⟨db1, k⟩ := res
    rw [hr] at h
    rw [run_storing p now 0] at h
    obtain ⟨rfl, rfl, hi, hins⟩ := step_of_temporary h h451
    exact ⟨rfl, hi, hins, .inl ⟨k, rfl⟩⟩
  | error f =>
    rw [hr] at h
    cases f with
    | update text =>
      rw [run_storing p now 0] at h
      obtain ⟨rfl, rfl, hi, hins⟩ := step_of_temporary h h451
      exact ⟨rfl, hi, hins, .inr ⟨⟨text, rfl⟩, rfl⟩⟩
    | _ =>
      rw [run_done] at h
      cases h

/-- A temporary failure comes from the mail box, after the delivery was written back to a ping that
waited, or after this failed. -/
theorem run_of_temporary (h : run p now 3 (start e) db = (done (.ok reply) e', db'))
    (h451 : reply.code = 451) :
    ∃ token ping, e.token? = some token ∧ p.find token db = .ok (some ping) ∧ e' = e.opened ∧
      e.opened.isIgnored = false ∧
      (∃ f, MailTable.insert db' e.opened = .error f ∧ f.isReported = true) ∧
      ((∃ k, p.record (Stage.delivery token e.data now) db = .ok (db', k)) ∨
        (∃ text, p.record (Stage.delivery token e.data now) db = .error (.update text)) ∧
          db' = db) := by
  -- a message that was suppressed is answered with a success
  have hsuppressed : ∀ k, run p now (k + 1) (storing e.opened.suppress) db
      ≠ (done (.ok reply) e', db') := by
    intro k hk
    rw [run_suppressed] at hk
    cases hk
    rw [Reply.code_accepted] at h451
    cases h451
  cases ht : e.token? with
  | none =>
    rw [start_of_no_token ht] at h
    exact absurd h (hsuppressed 2)
  | some token =>
    rw [start_of_token ht, run_succ] at h
    cases hf : p.find token db with
    | error f =>
      simp only [step, hf] at h
      cases f with
      | lookup text => exact absurd h (hsuppressed 1)
      | _ =>
        rw [run_done] at h
        cases h
    | ok found =>
      cases found with
      | none =>
        rw [step_of_not_found hf] at h
        exact absurd h (hsuppressed 1)
      | some ping =>
        rw [step_of_found hf] at h
        have hrest := run_recording_of_temporary h h451
        rw [Envelope.data_opened] at hrest
        exact ⟨token, ping, rfl, hf, hrest⟩

/-- A message whose token waits is stored, if the table of mail takes it. -/
theorem run_of_found {token : String} {ping : Ping} {n : String} (ht : e.token? = some token)
    (hfind : p.find token db = .ok (some ping)) (hi : e.opened.isIgnored = false)
    (hn : statementName p.name = .ok n) (hapart : sameName n MailTable.name = false)
    (hworks : ∀ db1, db1.table? MailTable.name = db.table? MailTable.name →
      ∃ db2, MailTable.insert db1 e.opened = .ok db2) :
    ∃ db1 db2, run p now 3 (start e) db = (done (.ok (Reply.accepted e.queueId)) e.opened, db2) ∧
      MailTable.insert db1 e.opened = .ok db2 := by
  -- whether the delivery is written or not, the table of mail is as it was
  obtain ⟨db1, hrecord, hmail⟩ : ∃ db1,
      (recording token e.opened).step p now db = (storing e.opened, db1) ∧
        db1.table? MailTable.name = db.table? MailTable.name := by
    simp only [step, Envelope.data_opened]
    cases hr : p.record (Stage.delivery token e.data now) db with
    | ok res => exact ⟨res.1, rfl, PingTable.table?_of_record_other hr hn hapart⟩
    | error f =>
      obtain ⟨text, rfl⟩ := PingTable.update_of_record hr
      exact ⟨db, rfl, rfl⟩
  obtain ⟨db2, hinsert⟩ := hworks db1 hmail
  refine ⟨db1, db2, ?_, hinsert⟩
  rw [start_of_token ht, run_succ, step_of_found hfind, run_succ, hrecord, run_storing]
  simp only [step, hi, hinsert, Envelope.queueId_opened]
  rfl

theorem run_of_not_found {token : String} (ht : e.token? = some token)
    (hfind : p.find token db = .ok none) :
    run p now 3 (start e) db = (done (.ok (Reply.accepted e.queueId)) e.opened.suppress, db) := by
  rw [start_of_token ht, run_succ, step_of_not_found hfind, run_suppressed,
    Envelope.queueId_opened]

end Passage

/-! ### What a temporary failure leaves -/

namespace Pipeline

section Retry

variable {pl : Pipeline Premises} {p : PingTable} {token : String} {e : Envelope}
  {o : Office Premises}

theorem process_of_not_found (h : pl.stages = defaultStages p) (ht : e.token? = some token)
    (hfind : p.find token o.database = .ok none) :
    ∃ o', pl.process .saveMail e o
        = (.ok (Reply.accepted e.queueId), e.opened.suppress, o') ∧
      o'.database = o.database := by
  obtain ⟨r, e', o', hprocess, -, hrun⟩ := process_eq_run h e o
  rw [Passage.run_of_not_found ht hfind] at hrun
  obtain ⟨hdone, hdb⟩ := Prod.mk.inj hrun
  cases hdone
  exact ⟨o', hprocess, hdb.symm⟩

/-- A message whose token waits is kept, if the table of mail takes it. -/
theorem process_of_found (h : pl.stages = defaultStages p) (ht : e.token? = some token)
    {ping : Ping} (hfind : p.find token o.database = .ok (some ping))
    (hi : e.opened.isIgnored = false) {n : String} (hn : statementName p.name = .ok n)
    (hapart : sameName n MailTable.name = false)
    (hworks : ∀ db, db.table? MailTable.name = o.database.table? MailTable.name →
      ∃ db', MailTable.insert db e.opened = .ok db') :
    ∃ o' db, pl.process .saveMail e o = (.ok (Reply.accepted e.queueId), e.opened, o') ∧
      MailTable.insert db e.opened = .ok o'.database := by
  obtain ⟨r, e', o', hprocess, -, hrun⟩ := process_eq_run h e o
  obtain ⟨db1, db2, hstored, hinsert⟩ := Passage.run_of_found ht hfind hi hn hapart hworks
  rw [hstored] at hrun
  obtain ⟨hdone, hdb⟩ := Prod.mk.inj hrun
  cases hdone
  refine ⟨o', db1, hprocess, ?_⟩
  rw [hinsert, hdb]

end Retry

/-- **A temporary failure leaves the database as it was exactly if the delivery could not be written
back.** In that case the same message is stored when it comes again and the table of mail takes it.
Otherwise the ping is spent: as long as nobody else changes its table, the same message is answered with
a success when it comes again, and dropped. -/
theorem temporary_failure_iff {table field : String} {pl : Pipeline Premises} {o o' : Office Premises}
    {e e' : Envelope} {reply : Reply}
    (hplan : assemble (shippedStages Premises.access Premises.now { table := table, field := field })
      { table := table, field := field } = .ok pl)
    (h : pl.process .saveMail e o = (.ok reply, e', o')) (h451 : reply.code = 451) :
    ∃ p n token, PingTable.describe? (some table) (some field) = .ok p ∧
      statementName table = .ok n ∧ e.token? = some token ∧
      (∃ ping, p.find token o.database = .ok (some ping)) ∧
      (∀ name, sameName n name = false → o'.database.table? name = o.database.table? name) ∧
      (o'.database.table? n = o.database.table? n ↔
        ∃ text, p.record (Stage.delivery token e.data o.scene.resources.now) o.database
          = .error (.update text)) ∧
      (o'.database.table? n = o.database.table? n → o'.database = o.database ∧
        ∀ later : Office Premises, later.database.table? n = o'.database.table? n →
          sameName n MailTable.name = false →
          (∀ db, db.table? MailTable.name = later.database.table? MailTable.name →
            ∃ db', MailTable.insert db e.opened = .ok db') →
          ∃ o2 db, pl.process .saveMail e later
              = (.ok (Reply.accepted e.queueId), e.opened, o2) ∧
            e.opened.isIgnored = false ∧ MailTable.insert db e.opened = .ok o2.database) ∧
      (o'.database.table? n ≠ o.database.table? n →
        ∀ later : Office Premises, later.database.table? n = o'.database.table? n →
          ∃ o2, pl.process .saveMail e later
              = (.ok (Reply.accepted e.queueId), e.opened.suppress, o2) ∧
            o2.database = later.database) := by
  obtain ⟨p, hp, hstages⟩ := stages_of_assemble hplan
  obtain ⟨hname, -⟩ := names_of_describe? hp
  -- the first attempt, taken apart
  obtain ⟨r, e1, o1, hprocess, -, hrun⟩ := process_eq_run hstages e o
  rw [h] at hprocess
  cases hprocess
  obtain ⟨token, ping, htoken, hfind, -, hi, -, hrecord⟩ := Passage.run_of_temporary hrun h451
  obtain ⟨n, -, -, hn, -, -, -⟩ := PingTable.select_of_find hfind
  refine ⟨p, n, token, hp, hname ▸ hn, htoken, ⟨ping, hfind⟩, ?_⟩
  rcases hrecord with ⟨k, hk⟩ | ⟨⟨text, htext⟩, hdb⟩
  · -- the delivery was written back, so the ping is spent
    have hchanged : o'.database.table? n ≠ o.database.table? n :=
      PingTable.table?_of_record (Stage.token_delivery _ _ _) hfind hk hn
    refine ⟨?_, ?_, fun heq => absurd heq hchanged, ?_⟩
    · intro name hother
      exact PingTable.table?_of_record_other hk hn hother
    · constructor
      · intro heq
        exact absurd heq hchanged
      · rintro ⟨text, htext⟩
        rw [hk] at htext
        cases htext
    · intro _ later hlater
      have hgone : p.find token later.database = .ok none :=
        PingTable.find_of_record (Stage.token_delivery _ _ _) hfind hk hn hlater
      exact process_of_not_found hstages htoken hgone
  · -- nothing was written, so everything is as it was
    refine ⟨?_, ?_, ?_, fun hne => absurd (by rw [hdb]) hne⟩
    · intro name _
      rw [hdb]
    · exact ⟨fun _ => ⟨text, htext⟩, fun _ => by rw [hdb]⟩
    · intro _
      refine ⟨hdb, ?_⟩
      intro later hlater hapart hworks
      have hthere : p.find token later.database = .ok (some ping) := by
        rw [PingTable.find_congr hn (hlater.trans (by rw [hdb]))]
        exact hfind
      obtain ⟨o2, db, h2, hinsert⟩ :=
        process_of_found hstages htoken hthere hi hn hapart hworks
      exact ⟨o2, db, h2, hi, hinsert⟩

/-- Mail for a ping that waits, on a database without a table of mail: its sender is told to try again,
and when the same mail comes again it is dropped, even if there is a table of mail by then. -/
theorem temporary_failure_iff_spent :
    let pl : Pipeline Premises := { stages := defaultStages Sample.pings }
    let o : Office Premises :=
      { scene := { resources := { database := { tables := [Sample.table] }, now := Sample.noon } } }
    ∃ e' o', pl.process .saveMail Sample.letter o = (.ok (.temporary "Storage error"), e', o') ∧
      o'.database.table? "pings" ≠ o.database.table? "pings" ∧
      ∀ later : Office Premises, later.database.table? "pings" = o'.database.table? "pings" →
        ∃ o2, pl.process .saveMail Sample.letter later
            = (.ok (Reply.accepted (some "q")), Sample.letter.opened.suppress, o2) ∧
          o2.database = later.database := by
  intro pl o
  have hplan : assemble (shippedStages Premises.access Premises.now { table := "pings" })
      { table := "pings" } = .ok pl := by
    rw [assemble_default]
    rfl
  have hreply : (pl.process .saveMail Sample.letter o).1.toOption
      = some (.temporary "Storage error") := by decide +kernel
  have hchanged : (pl.process .saveMail Sample.letter o).2.2.database.table? "pings"
      ≠ o.database.table? "pings" := by decide +kernel
  rcases hres : pl.process .saveMail Sample.letter o with ⟨r, e', o'⟩
  rw [hres] at hreply hchanged
  have hr : r = .ok (.temporary "Storage error") := by
    cases r with
    | error f => cases hreply
    | ok reply => exact congrArg Except.ok (Option.some.inj hreply)
  subst hr
  obtain ⟨p, n, token, -, hn, -, -, -, -, -, hspent⟩ := temporary_failure_iff hplan hres rfl
  have hpings : n = "pings" := by
    have h : statementName "pings" = .ok "pings" := by decide
    rw [h] at hn
    cases hn
    rfl
  subst hpings
  exact ⟨e', o', rfl, hchanged, hspent hchanged⟩

end Pipeline

end DeliveryWatch
