/-
What a run of stages leaves alone, from moment to moment, for the shipped stages in any order.

* `Line.deliver` — what becomes of a line when mail with some tokens was delivered;
* `Moment`, `Pipeline.moments` — the envelope, the database and the tokens that were taken from subjects,
  before the first stage of a run and after each stage that ran;
* `Follows` — what no stage changes, what stays once it is so, and what exactly becomes of the pings;
* `Course.delivers`, `Keeping.tables` — what the filter and the mail box do to the tables;
* `KeepsOff` — a stage after which this holds; `keepsOff_of_mem` — every shipped stage is one;
* `pairwise_moments` — so any moment of a run follows all earlier ones;
* `run_keeps_off` — the whole run, and the one that only checks a recipient.

Nothing is asked of the database, except that the pings are in a table of pings if they are in any. Where
this is the table of mail itself, it gets no rows.
-/
import DeliveryWatch.Proofs.Ledger.Mail
import DeliveryWatch.Proofs.Stage.Course
import Mathlib.Data.List.Chain

namespace DeliveryWatch

open Database Ledger Stage

/-! ### Lines that mail is delivered to -/

namespace Ledger

/-- What becomes of a line when mail with these tokens was delivered: if it waits for one of them, it
receives the delivery. -/
def Line.deliver (tokens : List String) (data : String) (now : Time) (l : Line) : Line :=
  match tokens.find? fun t => l.isWaiting t with
  | some t => l.receive (Stage.delivery t data now)
  | none => l

variable {data : String} {now : Time}

theorem map_deliver_nil (ls : List Line) : ls.map (Line.deliver [] data now) = ls := by
  rw [List.map_congr_left fun l _ => (rfl : l.deliver [] data now = l), List.map_id']

/-- A line that has received a delivery waits no more. -/
theorem Line.isWaiting_receive (l : Line) (d : Delivery) (token : String) :
    (l.receive d).isWaiting token = false := by
  rw [isWaiting]
  exact Bool.and_false _

theorem Line.deliver_append (ts us : List String) (l : Line) :
    l.deliver (ts ++ us) data now = (l.deliver ts data now).deliver us data now := by
  rw [deliver, List.find?_append]
  cases hfound : ts.find? fun t => l.isWaiting t with
  | none =>
    have hsame : l.deliver ts data now = l := by
      rw [deliver, hfound]
    rw [hsame, deliver]
    rfl
  | some t =>
    have hreceived : l.deliver ts data now = l.receive (Stage.delivery t data now) := by
      rw [deliver, hfound]
    -- a line that has received a delivery is marked as seen, and waits for nothing
    have hnone : us.find? (fun u => (l.receive (Stage.delivery t data now)).isWaiting u) = none := by
      rw [List.find?_eq_none]
      intro u _
      rw [Line.isWaiting_receive]
      exact Bool.false_ne_true
    rw [hreceived, deliver, hnone]
    rfl

/-- Only a line that waits for one of the tokens changes, and only by receiving a delivery. -/
theorem Line.deliver_of_ne {tokens : List String} {l : Line} (h : l.deliver tokens data now ≠ l) :
    ∃ t ∈ tokens, l.isWaiting t = true ∧
      l.deliver tokens data now = l.receive (Stage.delivery t data now) := by
  rw [deliver] at h ⊢
  cases hfound : tokens.find? fun t => l.isWaiting t with
  | none =>
    rw [hfound] at h
    exact absurd rfl h
  | some t =>
    have hwaits : l.isWaiting t = true := List.find?_some (p := fun t => l.isWaiting t) hfound
    exact ⟨t, List.mem_of_find?_eq_some hfound, hwaits, rfl⟩

theorem Line.deliver_singleton (token : String) (l : Line) : l.deliver [token] data now
    = if l.isWaiting token then l.receive (Stage.delivery token data now) else l := by
  rw [deliver, List.find?_singleton]
  by_cases h : l.isWaiting token = true
  · rw [if_pos h, if_pos h]
  · rw [if_neg h, if_neg h]

variable (p : PingTable)

/-- Whether the statements on the pings go to the table of this name. -/
def PingTable.IsNamed (name : String) : Prop := ∃ n, statementName p.name = .ok n ∧ sameName n name = true

/-- The table that the statements on the pings go to is a table of pings, if it is there at all. -/
def PingTable.IsHeld (db : Database) : Prop :=
  ∀ n t, statementName p.name = .ok n → db.table? n = some t → IsPings t

variable {p} {n : String}

theorem PingTable.not_isNamed_iff (hn : statementName p.name = .ok n) {name : String} :
    ¬ p.IsNamed name ↔ sameName n name = false := by
  rw [IsNamed, hn, ← Bool.not_eq_true]
  refine not_congr ⟨?_, fun h => ⟨n, rfl, h⟩⟩
  rintro ⟨m, hm, h⟩
  cases hm
  exact h

end Ledger

/-! ### Moments of a run -/

/-- A moment of a run: the envelope, the database, and the tokens that filters have taken from its subject
so far. -/
structure Moment where
  envelope : Envelope
  database : Database
  tokens : List String

namespace Pipeline

/-- The token that a stage takes from the subject of a message: only a filter does, and only of mail that
is to be saved. -/
def taken {σ : Type} (task : Task) (stage : Stage σ) (e : Envelope) : List String :=
  if task = .saveMail ∧ stage.name = filterName then (Ping.token? e.subject).toList else []

/-- The moments of a run: before the first stage, and after each stage that ran. -/
def moments (task : Task) :
    List (Stage Premises) → List String → Envelope → Scene Premises → List Moment
  | [], tokens, e, s => [⟨e, s.resources.database, tokens⟩]
  | stage :: rest, tokens, e, s =>
    ⟨e, s.resources.database, tokens⟩ ::
      match stage.process task e s with
      | (r, e', s') =>
        if r.toOption.any Reply.isOk then moments task rest (tokens ++ taken task stage e) e' s'
        else [⟨e', s'.resources.database, tokens ++ taken task stage e⟩]

end Pipeline

/-- What stages do and leave alone, between a moment and a later one. The envelope changes in its subject
and two of its annotations only, and a message that is to be ignored stays so. Of the tables only that of
mail gets rows, and none for a message that is to be ignored; and of the pings exactly those change that
wait for a token that was taken meanwhile. -/
structure Follows (p : PingTable) (now : Time) (a b : Moment) : Prop where
  envelope : b.envelope
    = { a.envelope with subject := b.envelope.subject, notes := b.envelope.notes }
  notes : ∀ key, key ≠ Envelope.ignoreKey → key ≠ Envelope.messageIdKey →
    b.envelope.note? key = a.envelope.note? key
  ignored : a.envelope.isIgnored = true → b.envelope.isIgnored = true
  others : ∀ name, ¬ p.IsNamed name → sameName MailTable.name name = false →
    b.database.table? name = a.database.table? name
  kept : ¬ p.IsNamed MailTable.name → (mailRows a.database).Sublist (mailRows b.database)
  unstored : ¬ p.IsNamed MailTable.name → a.envelope.isIgnored = true →
    mailRows b.database = mailRows a.database
  pings : ∃ tokens, b.tokens = a.tokens ++ tokens ∧ ∀ n, statementName p.name = .ok n →
    pingsOf n b.database = (pingsOf n a.database).map (Line.deliver tokens a.envelope.data now)

namespace Follows

variable {p : PingTable} {now : Time} {a b c : Moment}

theorem refl (a : Moment) : Follows p now a a := by
  refine ⟨rfl, fun _ _ _ => rfl, id, fun _ _ _ => rfl, fun _ => List.Sublist.refl _, fun _ _ => rfl,
    [], (List.append_nil _).symm, fun n _ => (map_deliver_nil _).symm⟩

theorem trans (h : Follows p now a b) (h' : Follows p now b c) : Follows p now a c := by
  obtain ⟨tokens, htokens, hpings⟩ := h.pings
  obtain ⟨tokens', htokens', hpings'⟩ := h'.pings
  have hdata : b.envelope.data = a.envelope.data := by rw [h.envelope]
  refine ⟨?_, ?_, h'.ignored ∘ h.ignored, ?_, ?_, ?_, tokens ++ tokens', ?_, ?_⟩
  · rw [h'.envelope, h.envelope]
  · intro key hi hm
    rw [h'.notes key hi hm, h.notes key hi hm]
  · intro name hn hm
    rw [h'.others name hn hm, h.others name hn hm]
  · intro hn
    exact (h.kept hn).trans (h'.kept hn)
  · intro hn hi
    rw [h'.unstored hn (h.ignored hi), h.unstored hn hi]
  · rw [htokens', htokens, List.append_assoc]
  · intro n hn
    rw [hpings' n hn, hpings n hn, List.map_map, hdata]
    exact List.map_congr_left fun l _ => (Line.deliver_append tokens tokens' l).symm

instance : IsTrans Moment (Follows p now) := ⟨fun _ _ _ => trans⟩

end Follows

/-! ### What the shipped stages do -/

namespace Envelope

/-- Reading a header fills in the subject and the id of the message. -/
theorem opened_eq (e : Envelope) :
    e.opened = { e with subject := e.opened.subject, notes := e.opened.notes } := by
  rw [opened]
  split
  · rfl
  · rfl

theorem note?_opened (e : Envelope) {key : String} (h : key ≠ messageIdKey) :
    e.opened.note? key = e.note? key := by
  rw [opened]
  split
  · exact note?_annotate_of_ne _ h _
  · rfl

theorem isIgnored_opened_eq (e : Envelope) : e.opened.isIgnored = e.isIgnored := by
  rw [isIgnored, isIgnored, note?_opened e (by decide)]

end Envelope

namespace Stage.Verdict

variable (v : Verdict) (e : Envelope)

theorem apply_eq :
    v.apply e = { e with subject := (v.apply e).subject, notes := (v.apply e).notes } := by
  rw [apply]
  split
  · rfl
  · rfl

theorem note?_apply {key : String} (h : key ≠ Envelope.ignoreKey) :
    (v.apply e).note? key = e.note? key := by
  rw [apply]
  split
  · rfl
  · exact e.note?_annotate_of_ne h _

theorem isIgnored_apply_of_isIgnored (h : e.isIgnored = true) : (v.apply e).isIgnored = true := by
  rw [apply]
  split
  · exact h
  · exact e.isIgnored_suppress

end Stage.Verdict

namespace Stage

variable {p : PingTable} {n token : String} {db : Database}

theorem isWaiting_of_not_found (hheld : p.IsHeld db) (hn : statementName p.name = .ok n)
    (hf : p.field = tokenColumn) (h : ∀ ping, p.find token db ≠ .ok (some ping)) :
    ∀ l ∈ pingsOf n db, l.isWaiting token = false := by
  cases ht : db.table? n with
  | none =>
    have hnone : pingsOf n db = [] := by
      rw [pingsOf, ht]
      rfl
    rw [hnone]
    exact fun l hl => absurd hl List.not_mem_nil
  | some t =>
    have hfind := (hheld n t hn ht).find_eq ht hn hf token
    rw [pingsOf_of_table? ht]
    intro l hl
    rw [← Bool.not_eq_true]
    -- a line that waits would be found
    intro hw
    rw [if_pos (List.any_eq_true.mpr ⟨l, hl, hw⟩)] at hfind
    exact h _ hfind

theorem deliver_of_not_found (hheld : p.IsHeld db) (hn : statementName p.name = .ok n)
    (hf : p.field = tokenColumn) (h : ∀ ping, p.find token db ≠ .ok (some ping)) (data : String)
    (now : Time) : (pingsOf n db).map (Line.deliver [token] data now) = pingsOf n db := by
  have hlines : ∀ l ∈ pingsOf n db, l.deliver [token] data now = l := by
    intro l hl
    by_contra hne
    obtain ⟨t, ht, hwaits, -⟩ := Line.deliver_of_ne hne
    rw [List.mem_singleton.mp ht, isWaiting_of_not_found hheld hn hf h l hl] at hwaits
    cases hwaits
  rw [List.map_congr_left hlines, List.map_id']

/-- What it does to the tables when mail with these tokens is delivered: the lines that wait for one of
the tokens receive the delivery, and no other table changes. -/
structure Delivers (p : PingTable) (tokens : List String) (data : String) (r r' : Premises) : Prop where
  now : r'.now = r.now
  held : p.IsHeld r'.database
  others : ∀ name, ¬ p.IsNamed name → r'.database.table? name = r.database.table? name
  pings : ∀ n, statementName p.name = .ok n →
    pingsOf n r'.database = (pingsOf n r.database).map (Line.deliver tokens data r.now)

section Delivers

variable {r : Premises}

theorem delivers_nil (hheld : p.IsHeld r.database) (data : String) : Delivers p [] data r r :=
  ⟨rfl, hheld, fun _ _ => rfl, fun _ _ => (map_deliver_nil _).symm⟩

theorem delivers_of_not_found (hheld : p.IsHeld r.database) (hf : p.field = tokenColumn)
    (h : ∀ ping, p.find token r.database ≠ .ok (some ping)) (data : String) :
    Delivers p [token] data r r :=
  ⟨rfl, hheld, fun _ _ => rfl, fun _ hn => (deliver_of_not_found hheld hn hf h data r.now).symm⟩

/-- The write-back to a ping that was found is never refused. -/
theorem delivers_of_found {ping : Ping} (hheld : p.IsHeld r.database) (hf : p.field = tokenColumn)
    (h : p.find token r.database = .ok (some ping)) (data : String) :
    (∃ k, ((p.store Premises.access).record (delivery token data r.now) r).result = .ok k) ∧
      Delivers p [token] data r
        ((p.store Premises.access).record (delivery token data r.now) r).resources := by
  obtain ⟨n, t, hn, ht⟩ := PingTable.exists_table_of_find h
  have hp := hheld n t hn ht
  have hwaits : (linesOf t).any (Line.isWaiting token) = true := by
    -- a ping is found only where one waits
    have hfind := hp.find_eq ht hn hf token
    rw [h] at hfind
    by_contra hnone
    rw [if_neg hnone] at hfind
    cases hfind
  obtain ⟨t', hrecord, hp', hname, -, hlines⟩ := hp.exists_record ht hn
    (Stage.delivery token data r.now) (Trace.fitsCell_recordedDelay data)
  have hput : (r.database.put t').table? n = some t' := table?_put ht hname
  refine ⟨⟨((linesOf t).filter (Line.isOf token)).length, ?_⟩, ?_⟩
  · rw [PingTable.result_record]
    exact congrArg (Except.map Prod.snd) hrecord
  · rw [PingTable.resources_record, hrecord]
    refine ⟨rfl, ?_, ?_, ?_⟩
    · intro m u hm hu
      cases hn.symm.trans hm
      cases hput.symm.trans hu
      exact hp'
    · intro name hother
      refine table?_put_other _ ?_
      rw [sameName_congr hname]
      exact (PingTable.not_isNamed_iff hn).mp hother
    · intro m hm
      cases hn.symm.trans hm
      rw [pingsOf_of_table? hput, pingsOf_of_table? ht, hlines]
      refine List.map_congr_left fun l hl => ?_
      show (if l.isOf token then _ else _) = _
      rw [hp.isOf_eq_isWaiting hwaits hl, Line.deliver_singleton]

end Delivers

/-- **What the filter does to the tables**: it delivers the mail to the token of its subject. -/
theorem Course.delivers {e : Envelope} {r r' : Premises} {v : Verdict}
    (h : Course (p.store Premises.access) Premises.now e r v r') (hheld : p.IsHeld r.database)
    (hf : p.field = tokenColumn) :
    Delivers p (Ping.token? e.subject).toList e.data r r' := by
  cases h with
  | noToken ht =>
    rw [ht]
    exact delivers_nil hheld e.data
  | @notFound token ht hfind =>
    have hfind' : p.find token r.database = .ok none := hfind
    rw [ht]
    exact delivers_of_not_found hheld hf (by simp [hfind']) e.data
  | @lookupError token text ht hfind =>
    have hfind' : p.find token r.database = .error (.lookup text) := hfind
    rw [ht]
    exact delivers_of_not_found hheld hf (by simp [hfind']) e.data
  | @written token ping r₁ k ht hfind hr₁ hrecord =>
    obtain rfl : r = r₁ := hr₁
    rw [ht]
    exact (delivers_of_found hheld hf hfind e.data).2
  | @unwritten token text ping r₁ ht hfind hr₁ hrecord =>
    obtain rfl : r = r₁ := hr₁
    rw [ht]
    exact (delivers_of_found hheld hf hfind e.data).2

/-- **What the mail box does to the tables**: no table but that of mail changes. This one gets at most a
row, and none for a message that is to be ignored; and if it is a table of pings, it changes neither. -/
theorem Keeping.tables {e : Envelope} {db' : Database} {w : Storing} (h : Keeping e db w db')
    (hheld : p.IsHeld db) :
    (∀ name, p.IsNamed name ∨ sameName MailTable.name name = false →
      db'.table? name = db.table? name) ∧
      (mailRows db).Sublist (mailRows db') ∧
      (e.isIgnored = true → mailRows db' = mailRows db) := by
  cases h with
  | ignored hi => exact ⟨fun _ _ => rfl, List.Sublist.refl _, fun _ => rfl⟩
  | error hi hinsert hf => exact ⟨fun _ _ => rfl, List.Sublist.refl _, fun _ => rfl⟩
  | stored hi hinsert =>
    obtain ⟨⟨r, hr⟩, hothers⟩ := exists_place_of_insert hinsert
    refine ⟨?_, ?_, fun hi' => absurd hi' (by simp [hi])⟩
    · intro name hname
      refine hothers name (hname.elim ?_ id)
      rintro ⟨n, hn, hsame⟩
      by_contra hmail
      rw [Bool.not_eq_false] at hmail
      -- otherwise the message was added to a table of pings
      have hnamed : sameName n MailTable.name = true := by
        rw [sameName_congr hsame, sameName_comm]
        exact hmail
      refine insert_ne_ok_of_isPings ?_ e db' hinsert
      intro t ht
      rw [table?_of_sameName hnamed] at ht
      exact hheld n t hn ht
    · rw [hr]
      exact Table.sublist_place r (mailRows db)

end Stage

namespace Pipeline

variable {p : PingTable} {e : Envelope} {tokens : List String} {now : Time}

theorem taken_of_ne {σ : Type} {task : Task} {stage : Stage σ} (h : stage.name ≠ filterName)
    (e : Envelope) : taken task stage e = [] := by
  rw [taken, if_neg fun hfilter => h hfilter.2]

theorem follows_opened (db : Database) : Follows p now ⟨e, db, tokens⟩ ⟨e.opened, db, tokens⟩ where
  envelope := e.opened_eq
  notes _ _ hm := e.note?_opened hm
  ignored hi := e.isIgnored_opened_eq.trans hi
  others _ _ _ := rfl
  kept _ := List.Sublist.refl _
  unstored _ _ := rfl
  pings := ⟨[], (List.append_nil _).symm, fun _ _ => (map_deliver_nil _).symm⟩

theorem follows_course {r r' : Premises} {v : Verdict}
    (h : Course (p.store Premises.access) Premises.now e r v r') (hheld : p.IsHeld r.database)
    (hf : p.field = tokenColumn) : Follows p r.now ⟨e, r.database, tokens⟩
      ⟨v.apply e, r'.database, tokens ++ (Ping.token? e.subject).toList⟩ := by
  have hdelivers := h.delivers hheld hf
  have hmail : ¬ p.IsNamed MailTable.name → mailRows r'.database = mailRows r.database := by
    intro hn
    rw [mailRows, mailRows, hdelivers.others _ hn]
  exact {
    envelope := v.apply_eq e
    notes := fun _ hi _ => v.note?_apply e hi
    ignored := v.isIgnored_apply_of_isIgnored e
    others := fun name hn _ => hdelivers.others name hn
    kept := fun hn => (hmail hn).symm ▸ List.Sublist.refl _
    unstored := fun hn _ => hmail hn
    pings := ⟨_, rfl, hdelivers.pings⟩ }

theorem follows_keeping {db db' : Database} {w : Storing} (h : Keeping e db w db')
    (hheld : p.IsHeld db) : Follows p now ⟨e, db, tokens⟩ ⟨e, db', tokens⟩ := by
  obtain ⟨hothers, hkept, hunstored⟩ := h.tables hheld
  exact {
    envelope := rfl
    notes := fun _ _ _ => rfl
    ignored := id
    others := fun name _ hm => hothers name (.inr hm)
    kept := fun _ => hkept
    unstored := fun _ => hunstored
    pings := by
      refine ⟨[], (List.append_nil _).symm, fun n hn => ?_⟩
      rw [map_deliver_nil, pingsOf, pingsOf, hothers n (.inl ⟨n, hn, sameName_self n⟩)] }

/-- A stage keeps its hands off if the moment after it follows the one before, whatever the message and
the database are like. -/
def KeepsOff (p : PingTable) (task : Task) (stage : Stage Premises) : Prop :=
  ∀ (e : Envelope) (s : Scene Premises) (tokens : List String), p.IsHeld s.resources.database →
    ∃ r e' s', stage.process task e s = (r, e', s') ∧ s'.resources.now = s.resources.now ∧
      p.IsHeld s'.resources.database ∧
      Follows p s.resources.now ⟨e, s.resources.database, tokens⟩
        ⟨e', s'.resources.database, tokens ++ taken task stage e⟩

theorem keepsOff_headers : KeepsOff p .saveMail Stage.headers := by
  intro e s tokens hheld
  obtain ⟨s', hs, hres⟩ := readHeaders_eq e s
  refine ⟨.ok (Reply.accepted e.opened.queueId), e.opened, s', ?_, ?_⟩
  · simp only [Stage.headers, hs]
  · rw [hres, taken_of_ne (by decide), List.append_nil]
    exact ⟨rfl, hheld, follows_opened _⟩

theorem keepsOff_tokenFilter (hf : p.field = tokenColumn) :
    KeepsOff p .saveMail (tokenFilter (p.store Premises.access) Premises.now) := by
  intro e s tokens hheld
  have hdutiful : (p.store Premises.access).IsDutiful :=
    PingTable.isDutiful_store Premises.access (by rw [hf]; decide)
  obtain ⟨v, r, s', hs, hres, -, hcourse⟩ := exists_course Premises.now e s hdutiful
  have hdelivers := hcourse.delivers hheld hf
  refine ⟨.ok (Reply.accepted (v.apply e).queueId), v.apply e, s', ?_, ?_⟩
  · simp only [tokenFilter, hs]
  · rw [hres, taken, if_pos ⟨rfl, rfl⟩]
    exact ⟨hdelivers.now, hdelivers.held, follows_course hcourse hheld hf⟩

theorem keepsOff_mailBox : KeepsOff p .saveMail (mailBox Premises.access) := by
  intro e s tokens hheld
  rw [taken_of_ne (by decide), List.append_nil]
  rcases exists_keeping e s with ⟨w, db, s', hs, hres, -, hkeeping⟩ | ⟨-, -, hs⟩
  · have hheld' : p.IsHeld db := by
      intro n t hn ht
      rw [(hkeeping.tables hheld).1 n (.inl ⟨n, hn, sameName_self n⟩)] at ht
      exact hheld n t hn ht
    refine ⟨.ok (answer e.queueId w), e, s', ?_, ?_⟩
    · simp only [mailBox, hs]
    · rw [hres]
      exact ⟨rfl, hheld', follows_keeping hkeeping hheld⟩
  -- a number that is too large for a cell stops everything, and nothing has happened
  · refine ⟨.error .tooLarge, e, s, ?_, rfl, hheld, Follows.refl _⟩
    simp only [mailBox, hs]

/-- A stage that only checks a recipient does nothing. -/
theorem process_checkRecipient {stage : Stage Premises} (hstage : stage ∈ defaultStages p)
    (e : Envelope) (s : Scene Premises) :
    stage.process .checkRecipient e s = (.ok (Reply.accepted e.queueId), e, s) := by
  simp only [defaultStages, List.mem_cons, List.not_mem_nil, or_false] at hstage
  rcases hstage with rfl | rfl | rfl
  · rfl
  · rfl
  · rfl

/-- **Every shipped stage keeps its hands off.** -/
theorem keepsOff_of_mem (hf : p.field = tokenColumn) (task : Task) {stage : Stage Premises}
    (hstage : stage ∈ defaultStages p) : KeepsOff p task stage := by
  cases task with
  | checkRecipient =>
    intro e s tokens hheld
    -- a stage takes up a token of mail only
    have htaken : taken .checkRecipient stage e = [] := by
      rw [taken, if_neg fun h => Task.noConfusion h.1]
    refine ⟨_, _, _, process_checkRecipient hstage e s, rfl, hheld, ?_⟩
    rw [htaken, List.append_nil]
    exact Follows.refl _
  | saveMail =>
    simp only [defaultStages, List.mem_cons, List.not_mem_nil, or_false] at hstage
    rcases hstage with rfl | rfl | rfl
    · exact keepsOff_headers
    · exact keepsOff_tokenFilter hf
    · exact keepsOff_mailBox

/-! ### Runs of the shipped stages -/

variable {stages : List (Stage Premises)}

theorem head?_moments (task : Task) (stages : List (Stage Premises)) (tokens : List String)
    (e : Envelope) (s : Scene Premises) :
    (moments task stages tokens e s).head? = some ⟨e, s.resources.database, tokens⟩ := by
  cases stages with
  | nil => rfl
  | cons stage rest => rfl

section Cons

variable {task : Task} {stage : Stage Premises} {e e' : Envelope} {s s' : Scene Premises}

theorem moments_cons_of_ok {reply : Reply} (h : stage.process task e s = (.ok reply, e', s'))
    (hok : reply.isOk = true) (rest : List (Stage Premises)) (tokens : List String) :
    moments task (stage :: rest) tokens e s
      = ⟨e, s.resources.database, tokens⟩ ::
        moments task rest (tokens ++ taken task stage e) e' s' := by
  rw [moments, h]
  simp only [Except.toOption, Option.any_some, hok, if_true]

theorem moments_cons_of_not_ok {r : Except Fault Reply} (h : stage.process task e s = (r, e', s'))
    (hr : r.toOption.any Reply.isOk = false) (rest : List (Stage Premises)) (tokens : List String) :
    moments task (stage :: rest) tokens e s
      = [⟨e, s.resources.database, tokens⟩,
        ⟨e', s'.resources.database, tokens ++ taken task stage e⟩] := by
  rw [moments, h]
  simp only [hr, Bool.false_eq_true, if_false]

end Cons

theorem getLast?_moments {task : Task} (reply : Reply) {r : Except Fault Reply} {e e' : Envelope}
    {o o' : Office Premises} (h : processAll task reply stages e o = (r, e', o')) (tokens : List String) :
    ∃ tokens', (moments task stages tokens e o.scene).getLast? = some ⟨e', o'.database, tokens'⟩ := by
  induction stages generalizing reply tokens e o with
  | nil =>
    cases h
    exact ⟨tokens, rfl⟩
  | cons stage rest ih =>
    rcases hproc : stage.process task e o.scene with ⟨r1, e1, s1⟩
    cases hr : r1.toOption.any Reply.isOk with
    | true =>
      -- the run goes on from the moment after the stage
      cases r1 with
      | error f => cases hr
      | ok reply1 =>
        rw [processAll_cons_of_ok hproc hr] at h
        obtain ⟨tokens', hlast⟩ := ih reply1 h (tokens ++ taken task stage e)
        refine ⟨tokens', ?_⟩
        rw [moments_cons_of_ok hproc hr, List.getLast?_cons, hlast]
        rfl
    | false =>
      have hlast : e' = e1 ∧ o'.database = s1.resources.database := by
        rw [processAll, hproc] at h
        cases r1 with
        | ok reply1 =>
          rw [Except.toOption, Option.any_some] at hr
          simp only [hr, Bool.false_eq_true, if_false] at h
          cases h
          exact ⟨rfl, rfl⟩
        | error f =>
          simp only at h
          split at h
          · cases h
            exact ⟨rfl, rfl⟩
          · cases h
            exact ⟨rfl, rfl⟩
      obtain ⟨rfl, hdb⟩ := hlast
      refine ⟨tokens ++ taken task stage e, ?_⟩
      rw [moments_cons_of_not_ok hproc hr, hdb]
      rfl

/-- **Between any two moments of a run the stages keep their hands off.** -/
theorem pairwise_moments {task : Task} (hstages : ∀ stage ∈ stages, KeepsOff p task stage)
    (tokens : List String) (e : Envelope) (s : Scene Premises) (hheld : p.IsHeld s.resources.database) :
    (moments task stages tokens e s).Pairwise (Follows p s.resources.now) := by
  -- to follow is transitive, so it is enough that each moment follows the one before it
  rw [← List.isChain_iff_pairwise]
  induction stages generalizing tokens e s with
  | nil => exact List.isChain_singleton _
  | cons stage rest ih =>
    obtain ⟨r, e', s', hproc, hnow, hheld', hfollows⟩ :=
      hstages stage List.mem_cons_self e s tokens hheld
    rw [moments, hproc]
    simp only
    split
    · refine List.isChain_cons.mpr ⟨?_, ?_⟩
      · intro m hm
        rw [head?_moments] at hm
        cases hm
        exact hfollows
      · rw [← hnow]
        exact ih (fun x hx => hstages x (List.mem_cons_of_mem stage hx)) _ e' s' hheld'
    · exact List.isChain_pair.mpr hfollows

/-- A run that only checks a recipient lets it through, and leaves everything as it is. -/
theorem processAll_checkRecipient (hstages : ∀ stage ∈ stages, stage ∈ defaultStages p) (e : Envelope)
    (o : Office Premises) : processAll .checkRecipient (Reply.accepted e.queueId) stages e o
      = (.ok (Reply.accepted e.queueId), e, o.countRun .checkRecipient true) := by
  induction stages with
  | nil => rfl
  | cons stage rest ih =>
    rw [processAll_cons_of_ok (process_checkRecipient (hstages stage List.mem_cons_self) e o.scene)
      (Reply.isOk_accepted _)]
    exact ih fun x hx => hstages x (List.mem_cons_of_mem stage hx)

theorem mem_defaultStages_of_make {plan : Plan} {name : String} {stage : Stage Premises}
    (hp : PingTable.describe? (some plan.table) (some plan.field) = .ok p)
    (h : (shippedStages Premises.access Premises.now plan).make name = .ok stage) :
    stage ∈ defaultStages p := by
  rw [Registry.make, Registry.lookup] at h
  cases hmaker : (shippedStages Premises.access Premises.now plan).find? (some name) with
  | none =>
    rw [hmaker] at h
    cases h
  | some make =>
    rw [hmaker] at h
    -- a maker that is found is one of the three entries
    obtain ⟨before, after, hentries, -⟩ := List.lookup_eq_some_iff.mp hmaker
    have hmem : (Registry.keyOf (some name), make)
        ∈ (shippedStages Premises.access Premises.now plan).entries := by
      rw [hentries]
      exact List.mem_append_right before List.mem_cons_self
    simp only [shippedStages, List.mem_cons, List.not_mem_nil, or_false, Prod.mk.injEq] at hmem
    rcases hmem with ⟨-, rfl⟩ | ⟨-, rfl⟩ | ⟨-, rfl⟩
    · cases h
      exact List.mem_cons_self
    · simp only [hp] at h
      cases h
      exact List.mem_cons_of_mem _ List.mem_cons_self
    · cases h
      exact List.mem_cons_of_mem _ (List.mem_cons_of_mem _ List.mem_cons_self)

/-- Whatever stages a plan names, and in whatever order, its pipeline consists of shipped stages. -/
theorem mem_defaultStages_of_assemble {plan : Plan} {pl : Pipeline Premises}
    (hp : PingTable.describe? (some plan.table) (some plan.field) = .ok p)
    (h : assemble (shippedStages Premises.access Premises.now plan) plan = .ok pl) :
    ∀ stage ∈ pl.stages, stage ∈ defaultStages p := by
  rw [assemble] at h
  obtain ⟨-, h⟩ := Outcome.guard_eq_ok.mp h
  obtain ⟨stages, hstages, h⟩ := Outcome.bind_eq_ok.mp h
  cases h
  intro stage hstage
  obtain ⟨name, -, hmake⟩ := Outcome.of_mem_mapM hstages hstage
  exact mem_defaultStages_of_make hp hmake

/-- **Runs keep their hands off.** For shipped stages in any order and number, over any database in which
the name of the pings stands for a table of pings or for none, the moments of a run lead from the message
as it came to what the run leaves, and each of them follows all earlier ones; and a run that only checks a
recipient lets it through and changes nothing. -/
theorem run_keeps_off {table : String} (hp : PingTable.describe? (some table) (some tokenColumn) = .ok p)
    {pl : Pipeline Premises} (hstages : ∀ stage ∈ pl.stages, stage ∈ defaultStages p) (task : Task)
    (e : Envelope) (o : Office Premises) (hheld : p.IsHeld o.database) :
    ∃ r e' o' tokens, pl.process task e o = (r, e', o') ∧
      (moments task pl.stages [] e o.scene).head? = some ⟨e, o.database, []⟩ ∧
      (moments task pl.stages [] e o.scene).getLast? = some ⟨e', o'.database, tokens⟩ ∧
      (moments task pl.stages [] e o.scene).Pairwise (Follows p o.scene.resources.now) ∧
      (task = .checkRecipient → r = .ok (Reply.accepted e.queueId) ∧
        (Reply.accepted e.queueId).code = 250 ∧ e' = e ∧ o'.database = o.database) := by
  have hf : p.field = tokenColumn := (names_of_describe? hp).2
  rcases hprocess : pl.process task e o with ⟨r, e', o'⟩
  obtain ⟨tokens, hlast⟩ := getLast?_moments (Reply.accepted e.queueId) hprocess []
  refine ⟨r, e', o', tokens, rfl, head?_moments _ _ _ _ _, hlast,
    pairwise_moments (fun stage h => keepsOff_of_mem hf task (hstages stage h)) [] e o.scene hheld, ?_⟩
  rintro rfl
  rw [Pipeline.process, processAll_checkRecipient hstages] at hprocess
  cases hprocess
  exact ⟨rfl, Reply.code_accepted _, rfl, rfl⟩

/-- A plan that filters before the header is read and after it, and has two mail boxes. -/
def disordered : Plan := { process := "GuidFilter|HeadersParser|GuidFilter|MailStore|MailStore" }

/-- The first filter finds no token, so the letter is to be ignored and no mail box stores it, although
the second filter takes its token and delivers it to the ping. -/
theorem run_keeps_off_disordered :
    let o : Office Premises := { scene := { resources := ⟨Sample.database, Sample.noon⟩ } }
    ∃ pl, assemble (shippedStages Premises.access Premises.now disordered) disordered = .ok pl ∧
      (moments .saveMail pl.stages [] Sample.letter o.scene).Pairwise
        (Follows Sample.pings Sample.noon) ∧
      (moments .saveMail pl.stages [] Sample.letter o.scene).map (fun m => m.tokens)
        = [[], [], [], ["x"], ["x"], ["x"]] ∧
      (moments .saveMail pl.stages [] Sample.letter o.scene).map (fun m =>
          (m.envelope.isIgnored, (pingsOf "pings" m.database).map Line.seen,
            (mailRows m.database).length))
        = [(false, [.int 0], 0), (true, [.int 0], 0), (true, [.int 0], 0), (true, [.int 1], 0),
          (true, [.int 1], 0), (true, [.int 1], 0)] := by
  intro o
  let filter : Stage Premises := tokenFilter (Sample.pings.store Premises.access) Premises.now
  let pl : Pipeline Premises :=
    { stages := [filter, Stage.headers, filter, mailBox Premises.access, mailBox Premises.access] }
  have hplan : assemble (shippedStages Premises.access Premises.now disordered) disordered
      = .ok pl := by rfl
  have hp : PingTable.describe? (some disordered.table) (some tokenColumn) = .ok Sample.pings := by
    rfl
  -- the table that is found under the configured name is the one of the sample
  have hheld : Sample.pings.IsHeld o.database := by
    intro n t hn ht
    obtain ⟨u, hu, hpings⟩ := Sample.ready_database.pings
    cases (show statementName "pings" = .ok "pings" by decide).symm.trans hn
    cases hu.symm.trans ht
    exact hpings
  obtain ⟨r, e', o', tokens, -, -, -, hpairwise, -⟩ := run_keeps_off hp
    (mem_defaultStages_of_assemble hp hplan) .saveMail Sample.letter o hheld
  refine ⟨pl, hplan, hpairwise, ?_, ?_⟩
  · decide +kernel
  · decide +kernel

end Pipeline

end DeliveryWatch
