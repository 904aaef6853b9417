/-
Probes that were recorded are received.

* `isPings_of_create` — the command makes a table of pings where there is none;
* `waits_of_addPing` — the ping that it adds waits for its mail;
* `Awaits` — the default pipeline at work after a ping was recorded; `Awaits.process` is what it does to
  mail with the token;
* `recorded_probe_is_received` — the pipeline finds the token of a probe in its mail, whatever prefix and
  body it has; so it accepts the mail, keeps it, and marks the ping as seen.
-/
import DeliveryWatch.Command.Probe
import DeliveryWatch.Proofs.Ledger.Made
import DeliveryWatch.Proofs.Ping.Email
import DeliveryWatch.Proofs.Pipeline.Posting

namespace DeliveryWatch.Command.Probe

open Database Ledger MailTable Text

variable {p : PingTable} {table field n token : String} {db db' : Database}

/-- Where there was no other table of its name, what the command makes is a table of pings. -/
theorem isPings_of_create (hp : PingTable.describe? (some table) (some field) = .ok p)
    (hn : statementName p.name = .ok n) (hdb : ∀ t, db.table? n = some t → IsPings t)
    (h : p.create db = .ok db') : ∀ t, db'.table? n = some t → IsPings t := by
  intro t ht
  cases hold : db.table? n with
  | some u =>
    cases ht.symm.trans (PingTable.table?_of_create h hold)
    exact hdb t hold
  | none =>
    obtain ⟨columns, hstated, rfl, hdistinct⟩ := PingTable.create_eq_ok hn h hold ht
    obtain ⟨hcolumns, -⟩ := PingTable.columns_stated hp hstated hdistinct
    exact ⟨hcolumns, nofun, nofun, List.Pairwise.nil⟩

/-- **The ping that the command adds waits for its mail.** -/
theorem waits_of_addPing (hp : PingTable.describe? (some table) (some field) = .ok p)
    (hn : statementName p.name = .ok n) (hdb : ∀ t, db.table? n = some t → IsPings t) {creates : Bool}
    (h : addPing creates p token db = (.ok (), db')) :
    ∃ t, db'.table? n = some t ∧ IsPings t ∧ (linesOf t).any (Line.isWaiting token) = true := by
  rw [addPing] at h
  split at h
  · cases h
  · rename_i made hmade
    split at h
    · cases h
    · rename_i added hadd
      cases h
      -- the table is one of pings before the ping is added, whether it was made just now or not
      have hpings : ∀ t, made.table? n = some t → IsPings t := by
        cases creates with
        | true => exact isPings_of_create hp hn hdb hmade
        | false =>
          cases hmade
          exact hdb
      obtain ⟨t, t', ht, hinsert, hlater⟩ := PingTable.insert_of_add hn hadd
      obtain ⟨hp', hwaits⟩ := (hpings t ht).insert_ping hinsert
      exact ⟨t', hlater, hp', hwaits⟩

/-! ### The mail of a recorded probe -/

/-- The default pipeline at work, after the ping of a token was recorded in its table. -/
structure Awaits (table n token : String) (pl : Pipeline Premises) (o : Office Premises) : Prop where
  name : statementName table = .ok n
  apart : sameName n MailTable.name = false
  /-- The pipeline was made by the plan, and activated. -/
  active : ∃ made s s', assemble (shippedStages Premises.access Premises.now { table := table })
      { table := table } = .ok made ∧ made.activate s = (.ok (), pl, s')
  /-- The command added the ping, and its table was not changed since. -/
  recorded : ∃ p creates db db', PingTable.describe? (some table) (some tokenColumn) = .ok p ∧
    (∀ t, db.table? n = some t → IsPings t) ∧ addPing creates p token db = (.ok (), db') ∧
    o.database.table? n = db'.table? n
  mail : ∃ t, o.database.table? MailTable.name = some t ∧ IsMail t

namespace Awaits

variable {pl : Pipeline Premises} {o : Office Premises}

/-- The database is ready, and the ping waits. -/
theorem ready (h : Awaits table n token pl o) :
    Ready n o.database ∧ (Book.ofDatabase n o.database).waits token = true := by
  obtain ⟨p, creates, db, db', hp, hdb, hadd, htable⟩ := h.recorded
  obtain ⟨hname, -⟩ := names_of_describe? hp
  have hn : statementName p.name = .ok n := by
    rw [hname]
    exact h.name
  obtain ⟨t, ht, hpings, hwaits⟩ := waits_of_addPing hp hn hdb hadd
  rw [← htable] at ht
  refine ⟨⟨⟨t, ht, hpings⟩, h.mail, h.apart⟩, ?_⟩
  rw [Book.waits, Book.ofDatabase, pingsOf, ht]
  exact hwaits

/-- **Mail with the token is accepted and kept**, and its delivery is written to the ping: no line of the
token is left unseen. -/
theorem process (h : Awaits table n token pl o) {e : Envelope} (htoken : e.token? = some token)
    (hnotes : e.notes = []) (hq : e.queueId.isSome = true) :
    ∃ e' o', pl.process .saveMail e o = (.ok (Reply.accepted e.queueId), e', o') ∧
      e'.isIgnored = false ∧
      mailOf o'.database = mailOf o.database ++ [Letter.ofEnvelope e] ∧
      (∃ l ∈ pingsOf n o.database, l.isWaiting token = true ∧
        l.receive (Stage.delivery token e.data o.scene.resources.now) ∈ pingsOf n o'.database) ∧
      ∀ l ∈ pingsOf n o'.database, l.isOf token = true → l.seen = .int 1 := by
  obtain ⟨hready, hwaits⟩ := h.ready
  obtain ⟨made, s, s', hplan, hact⟩ := h.active
  obtain ⟨p, hp, hmade⟩ := stages_of_assemble hplan
  obtain ⟨hname, hfield⟩ := names_of_describe? hp
  have hn : statementName p.name = .ok n := by
    rw [hname]
    exact h.name
  obtain ⟨hstages, -⟩ := Pipeline.create_of_activate hmade hact
  -- the pipeline takes the three steps of the message, and these are known on a ready database
  obtain ⟨r, e', o', hprocess, -, hrun⟩ := process_eq_run hstages e o
  obtain ⟨e2, db', hrun', hignored, -, hbook, -⟩ :=
    Passage.run_of_ready hready hn hfield o.scene.resources.now hnotes hq
  rw [Book.accepts_of_some htoken, hwaits] at hignored
  cases hrun.symm.trans hrun'
  rw [Book.post_of_waits htoken hwaits] at hbook
  have hpings : pingsOf n o'.database = (pingsOf n o.database).map fun l =>
      if l.isWaiting token then l.receive (Stage.delivery token e.data o.scene.resources.now) else l :=
    congrArg Book.pings hbook
  refine ⟨e', o', hprocess, hignored, congrArg Book.mail hbook, ?_, ?_⟩
  · obtain ⟨l, hl, hlw⟩ := List.any_eq_true.mp hwaits
    refine ⟨l, hl, hlw, ?_⟩
    rw [hpings]
    refine List.mem_map.mpr ⟨l, hl, ?_⟩
    rw [if_pos hlw]
  · intro l hl hof
    rw [hpings] at hl
    obtain ⟨l0, hl0, rfl⟩ := List.mem_map.mp hl
    by_cases hw : l0.isWaiting token = true
    · rw [if_pos hw]
      rfl
    · rw [if_neg hw, hready.isOf_eq_isWaiting hwaits hl0] at hof
      exact absurd hof hw

end Awaits

/-- **A probe that was recorded is received.** Its mail can be written, and whatever its prefix and its
body are, the first stage gives it a subject in which the filter finds the token of the probe. So the
default pipeline, over a table in which the ping was just recorded, accepts the mail, keeps it as the last
letter, writes its delivery to the ping that waits, and leaves no line of the token unseen. -/
theorem recorded_probe_is_received {e : Ping.Email} (h : e.IsProper) (mark : Ping.Postmark) :
    (IsOneLine mark.date.toList → IsOneLine mark.messageId.toList → ∃ t, e.render mark = .ok t) ∧
    ∀ t m, e.render mark = .ok t → Message.readMetadata (.text t) = .ok m →
      ∀ env : Envelope, env.data = t →
      (∀ s : Scene Premises, ∃ env' s' subject,
        Stage.headers.process .saveMail env s = (.ok (Reply.accepted env.queueId), env', s') ∧
        env'.subject = some subject ∧ Ping.token? (some subject) = some e.token) ∧
      ∀ (table n : String) (pl : Pipeline Premises) (o : Office Premises),
        Awaits table n e.token pl o → env.notes = [] → env.queueId.isSome = true →
        ∃ env' o', pl.process .saveMail env o = (.ok (Reply.accepted env.queueId), env', o') ∧
          (Reply.accepted env.queueId).code = 250 ∧ env'.isIgnored = false ∧
          mailOf o'.database = mailOf o.database ++ [Letter.ofEnvelope env] ∧
          (∃ l ∈ pingsOf n o.database, l.isWaiting e.token = true ∧
            l.receive (Stage.delivery e.token t o.scene.resources.now) ∈ pingsOf n o'.database) ∧
          ∀ l ∈ pingsOf n o'.database, l.isOf e.token = true → l.seen = .int 1 := by
  refine ⟨h.exists_render, ?_⟩
  intro t m ht hm env hdata
  have hsubject := h.subject_of_render ht hm
  have htoken := h.token?_of_render ht hm
  rw [hsubject] at htoken
  have hopened : env.opened.subject = some (String.ofList (Header.readLine e.subject.toList)) := by
    rw [Envelope.opened, hdata, hm]
    simp only [Stage.fillIn, hsubject]
    rfl
  refine ⟨?_, ?_⟩
  · intro s
    obtain ⟨s', hs', -⟩ := Stage.readHeaders_eq env s
    refine ⟨env.opened, s', _, ?_, hopened, htoken⟩
    simp only [Stage.headers, hs', Envelope.queueId_opened]
  · intro table n pl o hawaits hnotes hq
    -- the first stage fills in the subject, so the token that the filter sees is that of the mail
    have hfound : env.token? = some e.token := by
      rw [Envelope.token?, hopened]
      exact htoken
    obtain ⟨env', o', hprocess, hignored, hmail, hpings, hseen⟩ := hawaits.process hfound hnotes hq
    rw [hdata] at hpings
    exact ⟨env', o', hprocess, Reply.code_accepted _, hignored, hmail, hpings, hseen⟩

namespace Sample

/-- A probe with a prefix that is not in ASCII. -/
def probe : Ping.Email :=
  { sender := "a@example.com", recipient := "b@example.com", token := "y", subjectPrefix := "Prüfung",
    body := some "hello" }

def mark : Ping.Postmark := ⟨"1 May 2024 12:00", "<1@example.com>"⟩

end Sample

/-- The mail of a probe whose subject is written in an encoded word is kept. -/
theorem recorded_probe_is_received_encoded :
    ∃ t pl o env' o', Sample.probe.render Sample.mark = .ok t ∧ Awaits "pings" "pings" "y" pl o ∧
      pl.process .saveMail { data := t, queueId := some "q" } o
        = (.ok (Reply.accepted (some "q")), env', o') ∧
      mailOf o'.database = mailOf o.database ++ [⟨.text t, .text "q"⟩] := by
  have hword : Sample.probe.token.toList.all (!isBlank ·) = true := by decide
  have hproper : Sample.probe.IsProper :=
    ⟨by decide, by simpa using hword, by decide +kernel, by decide, by decide +kernel, by decide,
      by decide⟩
  let s : Scene Premises := { resources := { database := Ledger.Sample.database,
                                             now := Ledger.Sample.noon } }
  let made : Pipeline Premises := { stages := defaultStages Ledger.Sample.pings }
  let db := (addPing false Ledger.Sample.pings "y" Ledger.Sample.database).2
  let o : Office Premises := ⟨{ resources := { database := db, now := Ledger.Sample.noon } }, {}⟩
  have hadd : addPing false Ledger.Sample.pings "y" Ledger.Sample.database = (.ok (), db) := by rfl
  have hplan : assemble (shippedStages Premises.access Premises.now { table := "pings" })
      { table := "pings" } = .ok made := by
    rw [assemble_default]
    rfl
  have hpings : ∀ t, Ledger.Sample.database.table? "pings" = some t → IsPings t := by
    rintro t ⟨⟩
    exact Ledger.Sample.isPings_table
  have hawaits : Awaits "pings" "pings" "y" (made.activate s).2.1 o :=
    ⟨by decide, by decide, ⟨made, s, _, hplan, rfl⟩,
      ⟨Ledger.Sample.pings, false, Ledger.Sample.database, db, by decide, hpings, hadd, rfl⟩,
      ⟨MailTable.empty, rfl, Ledger.Sample.isMail_empty⟩⟩
  obtain ⟨hwritten, hreceived⟩ := recorded_probe_is_received hproper Sample.mark
  obtain ⟨t, ht⟩ := hwritten (by decide) (by decide)
  have htext : t = (Sample.probe.render Sample.mark).toOption.getD "" := by rw [ht]; rfl
  have hreads : (Message.readMetadata (.text t)).toOption.isSome = true := by
    rw [htext]
    decide +kernel
  obtain ⟨m, hm⟩ : ∃ m, Message.readMetadata (.text t) = .ok m := by
    cases hm : Message.readMetadata (.text t) with
    | error f =>
      rw [hm] at hreads
      cases hreads
    | ok m => exact ⟨m, rfl⟩
  obtain ⟨-, hkept⟩ := hreceived t m ht hm { data := t, queueId := some "q" } rfl
  obtain ⟨env', o', hprocess, -, -, hmail, -⟩ := hkept "pings" "pings" _ o hawaits rfl rfl
  exact ⟨t, _, o, env', o', ht, hawaits, hprocess, hmail⟩

end DeliveryWatch.Command.Probe
