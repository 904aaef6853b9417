/-
Messages for one token that are processed at the same time.

* `Hall` — messages on their way, and the database that they share; `Hall.run` lets them take their
  steps in any order;
* `Event` — what the steps did, in the order in which they did it;
* `interleaving_accepts_iff` — a message is accepted exactly if its lookup came before every write-back,
  and the line of the token ends with the delivery that was written last.

So a token is not consumed by the lookup: messages whose lookups all come before the first write-back
are all accepted (`two_accepted`).
-/
import DeliveryWatch.Proofs.Pipeline.Posting

namespace DeliveryWatch

open Database Ledger MailTable

/-- Whether a message was let through by the lookup of its token. -/
def Passage.isAccepted : Passage → Bool
  | looking _ _ => false
  | recording _ _ => true
  | storing e => !e.isIgnored
  | done _ e => !e.isIgnored

/-- Whether a message was suppressed. -/
def Passage.isSuppressed : Passage → Bool
  | looking _ _ => false
  | recording _ _ => false
  | storing e => e.isIgnored
  | done _ e => e.isIgnored

namespace Passage

variable (e : Envelope) (r : Except Fault Reply)

theorem isAccepted_storing : (storing e).isAccepted = !e.isIgnored := rfl

theorem isAccepted_done : (done r e).isAccepted = !e.isIgnored := rfl

theorem isSuppressed_storing : (storing e).isSuppressed = e.isIgnored := rfl

theorem isSuppressed_done : (done r e).isSuppressed = e.isIgnored := rfl

/-- Whether a message is done. -/
def isDone : Passage → Bool
  | done _ _ => true
  | _ => false

theorem ne_done_of_isDone {x : Passage} (h : x.isDone = false) (r : Except Fault Reply)
    (e : Envelope) : x ≠ done r e := by
  rintro rfl
  exact Bool.noConfusion h

end Passage

/-! ### Steps in any order -/

/-- Messages on their way at the same time, and the database that they share. -/
structure Hall where
  database : Database
  passages : List Passage

/-- What a step of a message did. -/
inductive Event
  /-- Message `i` looked its token up. -/
  | looked (i : Nat)
  /-- Message `i` wrote its delivery back. -/
  | recorded (i : Nat) (d : Delivery)
  /-- Message `i` was kept. -/
  | stored (i : Nat) (l : Letter)
  /-- Message `i` was passed over, or was done before. -/
  | passed (i : Nat)
  deriving DecidableEq

namespace Event

/-- The delivery that an event wrote. -/
def delivery? : Event → Option Delivery
  | recorded _ d => some d
  | _ => none

/-- The letter that an event kept. -/
def letter? : Event → Option Letter
  | stored _ l => some l
  | _ => none

/-- The event of a step of message `i` from where it stands. -/
def ofPassage (i : Nat) (now : Time) : Passage → Event
  | .looking _ _ => looked i
  | .recording token e => recorded i (Stage.delivery token e.data now)
  | .storing e => if e.isIgnored then passed i else stored i (Letter.ofEnvelope e)
  | .done _ _ => passed i

end Event

/-- Whether message `i` looked its token up before any delivery was written back. -/
def Early (i : Nat) (evs : List Event) : Prop :=
  .looked i ∈ evs.takeWhile fun ev => ev.delivery?.isNone

instance (i : Nat) (evs : List Event) : Decidable (Early i evs) :=
  inferInstanceAs (Decidable (.looked i ∈ evs.takeWhile fun ev => ev.delivery?.isNone))

theorem mem_of_early {i : Nat} {evs : List Event} (h : Early i evs) : .looked i ∈ evs :=
  (List.takeWhile_prefix _).subset h

theorem Early.append {i : Nat} {evs : List Event} (h : Early i evs) (more : List Event) :
    Early i (evs ++ more) := by
  rw [Early] at h ⊢
  rw [List.takeWhile_append]
  split
  · exact List.mem_append_left _ ((List.takeWhile_prefix _).subset h)
  · exact h

/-- What others do later does not matter. -/
theorem early_append {i : Nat} {evs more : List Event} (h : .looked i ∉ more) :
    Early i (evs ++ more) ↔ Early i evs := by
  simp only [Early]
  rw [List.takeWhile_append]
  split
  · -- nothing was written yet, so what is done later still counts as early
    rename_i hall
    rw [(List.takeWhile_prefix _).eq_of_length hall, List.mem_append]
    constructor
    · rintro (hmem | hmem)
      · exact hmem
      · exact absurd ((List.takeWhile_prefix _).subset hmem) h
    · exact Or.inl
  · exact Iff.rfl

theorem early_concat {i : Nat} {evs : List Event} (h : .looked i ∉ evs) :
    Early i (evs ++ [.looked i]) ↔ evs.filterMap Event.delivery? = [] := by
  have hnone : evs.filterMap Event.delivery? = [] ↔ ∀ ev ∈ evs, ev.delivery?.isNone = true := by
    rw [List.filterMap_eq_nil_iff]
    simp only [Option.isNone_iff_eq_none]
  rw [hnone]
  rw [Early]
  constructor
  · intro hmem
    rw [List.takeWhile_append] at hmem
    split at hmem
    -- the events in front of the lookup are all without a delivery, or it is not among them
    · rename_i hall
      have heq := (List.takeWhile_prefix _).eq_of_length hall
      intro ev hev
      rw [← heq] at hev
      exact List.all_eq_true.mp List.all_takeWhile ev hev
    · exact absurd ((List.takeWhile_prefix _).subset hmem) h
  · intro hall
    rw [List.takeWhile_append_of_pos hall]
    simp [Event.delivery?]

namespace Hall

/-- Messages that come at the same time to a database. -/
def start (es : List Envelope) (db : Database) : Hall := ⟨db, es.map Passage.start⟩

/-- Message `i` takes its next step at the time `now`. -/
def step (p : PingTable) (i : Nat) (now : Time) (h : Hall) : Hall :=
  match h.passages[i]? with
  | some x => ⟨(x.step p now h.database).2, h.passages.set i (x.step p now h.database).1⟩
  | none => h

/-- What the next step of message `i` does. -/
def next (i : Nat) (now : Time) (h : Hall) : List Event :=
  (h.passages[i]?.map (Event.ofPassage i now)).toList

/-- The messages take steps in the order of a schedule, which names a message and a time for each. The
result is the hall after them, and what they did. -/
def run (p : PingTable) (schedule : List (Nat × Time)) (h : Hall) : Hall × List Event :=
  schedule.foldl (fun s x => (s.1.step p x.1 x.2, s.2 ++ s.1.next x.1 x.2)) (h, [])

end Hall

/-! ### Where a message stands after what was done -/

/-- Where message `i` with the envelope `e` stands after the events `evs`. -/
inductive Stands (token : String) (i : Nat) (e : Envelope) (evs : List Event) : Passage → Prop
  | looking (h : .looked i ∉ evs) : Stands token i e evs (.looking token e.opened)
  | recording (h : Early i evs) : Stands token i e evs (.recording token e.opened)
  | storing (h : Early i evs) : Stands token i e evs (.storing e.opened)
  | kept (h : Early i evs) (hs : .stored i (Letter.ofEnvelope e) ∈ evs) :
    Stands token i e evs (.done (.ok (Reply.accepted e.queueId)) e.opened)
  | refused (h : .looked i ∈ evs ∧ ¬ Early i evs) : Stands token i e evs (.storing e.opened.suppress)
  | dropped (h : .looked i ∈ evs ∧ ¬ Early i evs) :
    Stands token i e evs (.done (.ok (Reply.accepted e.queueId)) e.opened.suppress)

/-- What others do does not move a message. -/
theorem Stands.append {token : String} {i : Nat} {e : Envelope} {evs : List Event} {x : Passage}
    (h : Stands token i e evs x) {more : List Event} (hmore : .looked i ∉ more) :
    Stands token i e (evs ++ more) x := by
  cases h with
  | looking h =>
    refine .looking ?_
    rw [List.mem_append, not_or]
    exact ⟨h, hmore⟩
  | recording h => exact .recording (h.append more)
  | storing h => exact .storing (h.append more)
  | kept h hs => exact .kept (h.append more) (List.mem_append_left more hs)
  | refused h =>
    exact .refused ⟨List.mem_append_left more h.1, fun he => h.2 ((early_append hmore).mp he)⟩
  | dropped h =>
    exact .dropped ⟨List.mem_append_left more h.1, fun he => h.2 ((early_append hmore).mp he)⟩

/-! ### The ledger after what was done -/

/-- The lines after deliveries were written to those of a token: the last delivery counts. -/
def linesAfter (token : String) (ds : List Delivery) (lines : List Line) : List Line :=
  match ds.getLast? with
  | some d => lines.map fun l => if l.isOf token then l.receive d else l
  | none => lines

theorem isOf_receive (token : String) (d : Delivery) (l : Line) :
    (l.receive d).isOf token = l.isOf token := rfl

/-- One more delivery replaces what was written before. -/
theorem linesAfter_concat (token : String) (ds : List Delivery) (d : Delivery) (lines : List Line) :
    linesAfter token (ds ++ [d]) lines
      = (linesAfter token ds lines).map fun l => if l.isOf token then l.receive d else l := by
  have hlast : linesAfter token (ds ++ [d]) lines
      = lines.map fun l => if l.isOf token then l.receive d else l := by
    rw [linesAfter]
    rw [List.getLast?_concat]
  rw [hlast]
  rw [linesAfter]
  cases ds.getLast? with
  | none => rfl
  | some d' =>
    simp only
    rw [List.map_map]
    refine List.map_congr_left ?_
    intro l _
    simp only [Function.comp_apply]
    -- a later delivery takes the place of an earlier one, and a line keeps its token
    by_cases h : l.isOf token = true
    · rw [if_pos h, if_pos h, isOf_receive, if_pos h]
      rfl
    · rw [if_neg h, if_neg h, if_neg h]

/-- After a delivery was written to it, no line of the token waits. -/
theorem waits_linesAfter {token : String} {ds : List Delivery} {lines : List Line}
    (h : lines.any (Line.isWaiting token) = true) :
    (linesAfter token ds lines).any (Line.isWaiting token) = ds.isEmpty := by
  rw [linesAfter]
  cases hd : ds.getLast? with
  | none =>
    rw [List.getLast?_eq_none_iff.mp hd]
    exact h
  | some d =>
    have hne : ds.isEmpty = false := by
      cases ds with
      | nil => cases hd
      | cons _ _ => rfl
    rw [hne]
    simp only
    rw [List.any_eq_false]
    intro l hl
    obtain ⟨l, -, rfl⟩ := List.mem_map.mp hl
    -- a line of the token is marked as seen, and any other does not wait for it
    by_cases hof : l.isOf token = true
    · rw [if_pos hof]
      rw [Line.isWaiting, Line.receive]
      simp
    · rw [if_neg hof]
      rw [Line.isWaiting]
      simp [hof]

/-! ### The invariant -/

/-- Whether what an event wrote or kept is of the message that it names; and only messages that looked
up early are kept. -/
def Event.IsOwn (token : String) (es : List Envelope) (evs : List Event) : Event → Prop
  | .recorded i d => ∃ e now, es[i]? = some e ∧ d = Stage.delivery token e.data now
  | .stored i l => Early i evs ∧ ∃ e, es[i]? = some e ∧ l = Letter.ofEnvelope e
  | _ => True

theorem Event.IsOwn.append {token : String} {es : List Envelope} {evs : List Event} {ev : Event}
    (h : ev.IsOwn token es evs) (more : List Event) : ev.IsOwn token es (evs ++ more) := by
  cases ev with
  | looked i => trivial
  | recorded i d => exact h
  | stored i l => exact ⟨h.1.append more, h.2⟩
  | passed i => trivial

/-- What holds of a hall that messages for one token came to, after the events `evs`. -/
structure Held (n token : String) (es : List Envelope) (db : Database) (h : Hall)
    (evs : List Event) : Prop where
  ready : Ready n h.database
  length : h.passages.length = es.length
  stands : ∀ i e, es[i]? = some e → ∃ x, h.passages[i]? = some x ∧ Stands token i e evs x
  pings : pingsOf n h.database = linesAfter token (evs.filterMap Event.delivery?) (pingsOf n db)
  mail : mailOf h.database = mailOf db ++ evs.filterMap Event.letter?
  own : ∀ ev ∈ evs, ev.IsOwn token es evs
  frame : Frame n db h.database

section Invariant

variable {n token : String} {es : List Envelope} {db : Database} {p : PingTable}

theorem held_start (hready : Ready n db) (hes : ∀ e ∈ es, e.token? = some token) :
    Held n token es db (Hall.start es db) [] := by
  refine ⟨hready, ?_, ?_, rfl, ?_, nofun, Frame.refl n db⟩
  · exact List.length_map _
  · intro i e he
    refine ⟨.looking token e.opened, ?_, .looking (List.not_mem_nil)⟩
    rw [Hall.start]
    rw [List.getElem?_map, he, Option.map_some,
      Passage.start_of_token (hes e (List.mem_of_getElem? he))]
  · exact (List.append_nil _).symm

/-- Where all messages but one stand as before, it is enough to know where this one stands. -/
theorem stands_set {h : Hall} {evs more : List Event} {i : Nat} {x : Passage}
    (hstands : ∀ j e, es[j]? = some e → ∃ y, h.passages[j]? = some y ∧ Stands token j e evs y)
    (hmore : ∀ j, j ≠ i → .looked j ∉ more)
    (hi : ∀ e, es[i]? = some e → Stands token i e (evs ++ more) x) :
    ∀ j e, es[j]? = some e → ∃ y, (h.passages.set i x)[j]? = some y ∧
      Stands token j e (evs ++ more) y := by
  intro j e he
  obtain ⟨y, hy, hs⟩ := hstands j e he
  by_cases hj : j = i
  · subst hj
    refine ⟨x, ?_, hi e he⟩
    rw [List.getElem?_set_self]
    exact (List.getElem?_eq_some_iff.mp hy).1
  · refine ⟨y, ?_, hs.append (hmore j hj)⟩
    rw [List.getElem?_set_ne (Ne.symm hj)]
    exact hy

theorem not_looked_of_ne {i j : Nat} (hj : j ≠ i) (now : Time) (x : Passage) :
    Event.looked j ∉ [Event.ofPassage i now x] := by
  rw [List.mem_singleton]
  cases x with
  | looking t e =>
    intro h
    exact hj (Event.looked.inj h)
  | recording t e => nofun
  | storing e =>
    simp only [Event.ofPassage]
    split
    · nofun
    · nofun
  | done r e => nofun

theorem Held.next {h : Hall} {evs : List Event} (hheld : Held n token es db h evs) {i : Nat}
    {now : Time} {x x' : Passage} {db' : Database} {e : Envelope}
    (hx : h.passages[i]? = some x) (he : es[i]? = some e)
    (hstep : x.step p now h.database = (x', db')) (hready : Ready n db')
    (hpings : pingsOf n db' = linesAfter token
      ((evs ++ [Event.ofPassage i now x]).filterMap Event.delivery?) (pingsOf n db))
    (hmail : mailOf db' = mailOf db
      ++ (evs ++ [Event.ofPassage i now x]).filterMap Event.letter?)
    (hown : (Event.ofPassage i now x).IsOwn token es (evs ++ [Event.ofPassage i now x]))
    (hframe : Frame n h.database db')
    (hi : Stands token i e (evs ++ [Event.ofPassage i now x]) x') :
    Held n token es db (h.step p i now) (evs ++ h.next i now) := by
  have hnext : h.next i now = [Event.ofPassage i now x] := by
    rw [Hall.next]
    rw [hx]
    rfl
  have hhall : h.step p i now = ⟨db', h.passages.set i x'⟩ := by
    rw [Hall.step]
    rw [hx]
    simp only
    rw [hstep]
  rw [hnext, hhall]
  refine ⟨hready, ?_, ?_, hpings, hmail, ?_, hheld.frame.trans hframe⟩
  · rw [← hheld.length]
    exact List.length_set
  -- the other messages stand where they stood, since the step is not theirs
  · refine stands_set hheld.stands (fun j hj => not_looked_of_ne hj now x) ?_
    intro e' he'
    cases he.symm.trans he'
    exact hi
  · intro ev hev
    rcases List.mem_append.mp hev with hev | hev
    · exact (hheld.own ev hev).append _
    · rw [List.mem_singleton.mp hev]
      exact hown

theorem Held.next_still {h : Hall} {evs : List Event} (hheld : Held n token es db h evs) {i : Nat}
    {now : Time} {x x' : Passage} {e : Envelope} (hx : h.passages[i]? = some x)
    (he : es[i]? = some e) (hstep : x.step p now h.database = (x', h.database))
    (hdelivery : (Event.ofPassage i now x).delivery? = none)
    (hletter : (Event.ofPassage i now x).letter? = none)
    (hi : Stands token i e (evs ++ [Event.ofPassage i now x]) x') :
    Held n token es db (h.step p i now) (evs ++ h.next i now) := by
  refine hheld.next hx he hstep hheld.ready ?_ ?_ ?_ (Frame.refl n _) hi
  · rw [List.filterMap_append, List.filterMap_cons_none hdelivery, List.filterMap_nil,
      List.append_nil]
    exact hheld.pings
  · rw [List.filterMap_append, List.filterMap_cons_none hletter, List.filterMap_nil,
      List.append_nil]
    exact hheld.mail
  · generalize Event.ofPassage i now x = ev at hdelivery hletter
    cases ev with
    | looked i => trivial
    | recorded i d => cases hdelivery
    | stored i l => cases hletter
    | passed i => trivial

/-- A lookup finds the ping exactly if no delivery was written before. -/
theorem Held.step_looking (hn : statementName p.name = .ok n) (hf : p.field = tokenColumn)
    (hwaits : (Book.ofDatabase n db).waits token = true) {h : Hall} {evs : List Event}
    (hheld : Held n token es db h evs) {i : Nat} {e : Envelope} (he : es[i]? = some e)
    (hx : h.passages[i]? = some (.looking token e.opened)) (hl : .looked i ∉ evs) (now : Time) :
    Held n token es db (h.step p i now) (evs ++ h.next i now) := by
  -- the ping still waits exactly if nothing was written yet
  have hw : (Book.ofDatabase n h.database).waits token
      = (evs.filterMap Event.delivery?).isEmpty := by
    show (pingsOf n h.database).any _ = _
    rw [hheld.pings]
    exact waits_linesAfter hwaits
  refine hheld.next_still hx he (Passage.step_looking hheld.ready hn hf now token e.opened)
    rfl rfl ?_
  show Stands token i e (evs ++ [.looked i]) _
  by_cases hempty : evs.filterMap Event.delivery? = []
  · rw [hw, hempty]
    exact .recording ((early_concat hl).mpr hempty)
  · have hne : (evs.filterMap Event.delivery?).isEmpty = false := by
      rw [List.isEmpty_eq_false_iff]
      exact hempty
    rw [hw, hne]
    exact .refused ⟨by simp, fun hearly => hempty ((early_concat hl).mp hearly)⟩

/-- A write-back does not ask whether the ping still waits: it takes the place of earlier ones. -/
theorem Held.step_recording (hn : statementName p.name = .ok n) {h : Hall} {evs : List Event}
    (hheld : Held n token es db h evs) {i : Nat} {e : Envelope} (he : es[i]? = some e)
    (hx : h.passages[i]? = some (.recording token e.opened)) (hl : Early i evs) (now : Time) :
    Held n token es db (h.step p i now) (evs ++ h.next i now) := by
  obtain ⟨db', hstep, hready, hbook, hframe⟩ :=
    Passage.step_recording hheld.ready hn now token e.opened
  refine hheld.next hx he hstep hready ?_ ?_ ⟨e, now, he, ?_⟩ hframe (.storing (hl.append _))
  · rw [List.filterMap_append]
    show _ = linesAfter token (_ ++ [Stage.delivery token e.opened.data now]) _
    rw [linesAfter_concat, ← hheld.pings]
    exact congrArg Book.pings hbook
  · rw [List.filterMap_append]
    show _ = _ ++ (_ ++ [])
    rw [List.append_nil, ← hheld.mail]
    exact congrArg Book.mail hbook
  · rw [Envelope.data_opened]

theorem Held.step_storing {h : Hall} {evs : List Event} (hheld : Held n token es db h evs) {i : Nat}
    {e : Envelope} (he : es[i]? = some e) (hnotes : e.notes = []) (hq : e.queueId.isSome = true)
    (hx : h.passages[i]? = some (.storing e.opened)) (hl : Early i evs) (now : Time) :
    Held n token es db (h.step p i now) (evs ++ h.next i now) := by
  have hi := Envelope.isIgnored_opened hnotes
  obtain ⟨db', hstep, hready, hbook, hframe⟩ := Passage.step_storing (p := p) hheld.ready now hi
    (by rw [Envelope.queueId_opened]; exact hq) (Envelope.hasCell_opened hnotes)
  -- a message that is kept at this step was not suppressed, so the event is that of its letter
  have hev : Event.ofPassage i now (.storing e.opened) = .stored i (Letter.ofEnvelope e) := by
    simp only [Event.ofPassage]
    rw [hi, letter_opened]
    rfl
  rw [Envelope.queueId_opened] at hstep
  refine hheld.next hx he hstep hready ?_ ?_ ?_ hframe ?_
  · rw [hev, List.filterMap_append]
    show _ = linesAfter token (_ ++ []) _
    rw [List.append_nil, ← hheld.pings]
    exact congrArg Book.pings hbook
  · rw [hev, List.filterMap_append]
    show _ = _ ++ (_ ++ [Letter.ofEnvelope e])
    rw [← List.append_assoc, ← hheld.mail, ← letter_opened e]
    exact congrArg Book.mail hbook
  · rw [hev]
    exact ⟨hl.append _, e, he, rfl⟩
  · rw [hev]
    exact .kept (hl.append _) (by simp)

theorem Held.step_suppressed {h : Hall} {evs : List Event} (hheld : Held n token es db h evs)
    {i : Nat} {e : Envelope} (he : es[i]? = some e)
    (hx : h.passages[i]? = some (.storing e.opened.suppress)) (hl : .looked i ∈ evs ∧ ¬ Early i evs)
    (now : Time) : Held n token es db (h.step p i now) (evs ++ h.next i now) := by
  have hi := Envelope.isIgnored_suppress e.opened
  have hstep := Passage.step_ignored (p := p) now hi h.database
  rw [Envelope.queueId_suppress, Envelope.queueId_opened] at hstep
  have hev : Event.ofPassage i now (.storing e.opened.suppress) = .passed i := by
    simp only [Event.ofPassage]
    rw [if_pos hi]
  have hnever : Event.looked i ∉ [Event.passed i] := by simp
  refine hheld.next_still hx he hstep (by rw [hev]; rfl) (by rw [hev]; rfl) ?_
  rw [hev]
  exact .dropped ⟨List.mem_append_left _ hl.1, fun hearly => hl.2 ((early_append hnever).mp hearly)⟩

/-- **Every step of every message keeps the invariant.** -/
theorem held_step (hn : statementName p.name = .ok n) (hf : p.field = tokenColumn)
    (hes : ∀ e ∈ es, e.notes = [] ∧ e.queueId.isSome = true)
    (hwaits : (Book.ofDatabase n db).waits token = true) {h : Hall} {evs : List Event}
    (hheld : Held n token es db h evs) (i : Nat) (now : Time) :
    Held n token es db (h.step p i now) (evs ++ h.next i now) := by
  cases hx : h.passages[i]? with
  | none =>
    -- nobody has this number
    rw [Hall.step, Hall.next]
    rw [hx]
    simp only [Option.map_none, Option.toList_none, List.append_nil]
    exact hheld
  | some x =>
    obtain ⟨e, he⟩ : ∃ e, es[i]? = some e := by
      have hlt := (List.getElem?_eq_some_iff.mp hx).1
      rw [hheld.length] at hlt
      exact ⟨es[i], List.getElem?_eq_getElem hlt⟩
    obtain ⟨hnotes, hq⟩ := hes e (List.mem_of_getElem? he)
    obtain ⟨y, hy, hs⟩ := hheld.stands i e he
    cases hx.symm.trans hy
    have hnever : Event.looked i ∉ [Event.passed i] := by simp
    -- one case for each place where the message can stand
    cases hs with
    | looking hl => exact hheld.step_looking hn hf hwaits he hx hl now
    | recording hl => exact hheld.step_recording hn he hx hl now
    | storing hl => exact hheld.step_storing he hnotes hq hx hl now
    | kept hl hs =>
      exact hheld.next_still hx he rfl rfl rfl (.kept (hl.append _) (List.mem_append_left _ hs))
    | refused hl => exact hheld.step_suppressed he hx hl now
    | dropped hl =>
      refine hheld.next_still hx he rfl rfl rfl (.dropped ⟨List.mem_append_left _ hl.1, ?_⟩)
      exact fun hearly => hl.2 ((early_append hnever).mp hearly)

/-- So the invariant holds after every schedule. -/
theorem held_run (hn : statementName p.name = .ok n) (hf : p.field = tokenColumn)
    (hready : Ready n db)
    (hes : ∀ e ∈ es, e.token? = some token ∧ e.notes = [] ∧ e.queueId.isSome = true)
    (hwaits : (Book.ofDatabase n db).waits token = true) (schedule : List (Nat × Time)) :
    Held n token es db ((Hall.start es db).run p schedule).1 ((Hall.start es db).run p schedule).2 := by
  have hsteps : ∀ (schedule : List (Nat × Time)) (s : Hall × List Event),
      Held n token es db s.1 s.2 →
      Held n token es db
        (schedule.foldl (fun s x => (s.1.step p x.1 x.2, s.2 ++ s.1.next x.1 x.2)) s).1
        (schedule.foldl (fun s x => (s.1.step p x.1 x.2, s.2 ++ s.1.next x.1 x.2)) s).2 := by
    intro schedule
    induction schedule with
    | nil => intro s hs; exact hs
    | cons x rest ih =>
      intro s hs
      exact ih _ (held_step hn hf (fun e he => (hes e he).2) hwaits hs x.1 x.2)
  exact hsteps schedule _ (held_start hready fun e he => (hes e he).1)

end Invariant

/-! ### Who is accepted -/

/-- What it means for a message to stand somewhere. -/
theorem Stands.decided {token : String} {i : Nat} {e : Envelope} {evs : List Event} {x : Passage}
    (hnotes : e.notes = []) (h : Stands token i e evs x) :
    (x.isAccepted = true ↔ Early i evs) ∧
      (x.isSuppressed = true ↔ .looked i ∈ evs ∧ ¬ Early i evs) ∧
      ∀ r e', x = .done r e' → r = .ok (Reply.accepted e.queueId) ∧
        (x.isAccepted = true → .stored i (Letter.ofEnvelope e) ∈ evs) := by
  have hopen : (!e.opened.isIgnored) = true := by
    rw [Envelope.isIgnored_opened hnotes]
    rfl
  have hkept : e.opened.isIgnored ≠ true := by
    rw [Envelope.isIgnored_opened hnotes]
    exact Bool.false_ne_true
  have hsupp : e.opened.suppress.isIgnored = true := Envelope.isIgnored_suppress e.opened
  have hdropped : (!e.opened.suppress.isIgnored) ≠ true := by
    rw [hsupp]
    exact Bool.false_ne_true
  have hgoing : ∀ {y : Passage}, y.isDone = false → ∀ r e', y = .done r e' →
      r = .ok (Reply.accepted e.queueId) ∧
        (y.isAccepted = true → .stored i (Letter.ofEnvelope e) ∈ evs) := by
    intro y hy r e' heq
    exact absurd heq (Passage.ne_done_of_isDone hy r e')
  -- the first two places are early or undecided, the others follow from what is annotated
  cases h with
  | looking h =>
    exact ⟨⟨nofun, fun he => absurd (mem_of_early he) h⟩, ⟨nofun, fun he => absurd he.1 h⟩,
      hgoing rfl⟩
  | recording h => exact ⟨⟨fun _ => h, fun _ => rfl⟩, ⟨nofun, fun he => absurd h he.2⟩, hgoing rfl⟩
  | storing h =>
    refine ⟨?_, ?_, hgoing rfl⟩
    · rw [Passage.isAccepted_storing]
      exact ⟨fun _ => h, fun _ => hopen⟩
    · rw [Passage.isSuppressed_storing]
      exact ⟨fun hi => absurd hi hkept, fun he => absurd h he.2⟩
  | kept h hs =>
    rw [Passage.isAccepted_done, Passage.isSuppressed_done]
    refine ⟨⟨fun _ => h, fun _ => hopen⟩,
      ⟨fun hi => absurd hi hkept, fun he => absurd h he.2⟩, ?_⟩
    rintro r e' ⟨⟩
    exact ⟨rfl, fun _ => hs⟩
  | refused h =>
    refine ⟨?_, ?_, hgoing rfl⟩
    · rw [Passage.isAccepted_storing]
      exact ⟨fun hi => absurd hi hdropped, fun he => absurd he h.2⟩
    · rw [Passage.isSuppressed_storing]
      exact ⟨fun _ => h, fun _ => hsupp⟩
  | dropped h =>
    rw [Passage.isAccepted_done, Passage.isSuppressed_done]
    refine ⟨⟨fun hi => absurd hi hdropped, fun he => absurd he h.2⟩,
      ⟨fun _ => h, fun _ => hsupp⟩, ?_⟩
    rintro r e' ⟨⟩
    exact ⟨rfl, fun hi => absurd hi hdropped⟩

/-- **A message is accepted exactly if its lookup came before every write-back**, whatever the order of
the steps of however many messages for one token; it is suppressed exactly if it looked up later. The
lines of the token end with the delivery that was written last, which is that of one of the messages,
and exactly the messages that were accepted and are done are kept. -/
theorem interleaving_accepts_iff {table n token : String} {p : PingTable}
    (hp : PingTable.describe? (some table) (some tokenColumn) = .ok p)
    (hn : statementName table = .ok n) {db : Database} (hready : Ready n db)
    (hwaits : (Book.ofDatabase n db).waits token = true) {es : List Envelope}
    (hes : ∀ e ∈ es, e.token? = some token ∧ e.notes = [] ∧ e.queueId.isSome = true)
    (schedule : List (Nat × Time)) :
    ∃ h evs, (Hall.start es db).run p schedule = (h, evs) ∧
      (∀ i e, es[i]? = some e → ∃ x, h.passages[i]? = some x ∧
        (x.isAccepted = true ↔ Early i evs) ∧
        (x.isSuppressed = true ↔ .looked i ∈ evs ∧ ¬ Early i evs) ∧
        ∀ r e', x = .done r e' → r = .ok (Reply.accepted e.queueId) ∧
          (x.isAccepted = true → .stored i (Letter.ofEnvelope e) ∈ evs)) ∧
      (∀ ev ∈ evs, ev.IsOwn token es evs) ∧
      pingsOf n h.database
        = linesAfter token (evs.filterMap Event.delivery?) (pingsOf n db) ∧
      mailOf h.database = mailOf db ++ evs.filterMap Event.letter? ∧ Frame n db h.database := by
  obtain ⟨hname, hfield⟩ := names_of_describe? hp
  rw [← hname] at hn
  have hheld := held_run hn hfield hready hes hwaits schedule
  refine ⟨_, _, rfl, ?_, hheld.own, hheld.pings, hheld.mail, hheld.frame⟩
  intro i e he
  obtain ⟨x, hx, hs⟩ := hheld.stands i e he
  exact ⟨x, hx, hs.decided (hes e (List.mem_of_getElem? he)).2.1⟩

/-- Two messages that come at the same time but take their steps one after the other: the first is
accepted and the second is not. -/
theorem interleaving_accepts_iff_in_turn :
    let schedule := [0, 0, 0, 1, 1, 1].map fun i => (i, Sample.noon)
    ∃ h evs, (Hall.start [Sample.letter, Sample.letter] Sample.database).run Sample.pings schedule
        = (h, evs) ∧
      (∃ x y, h.passages[0]? = some x ∧ x.isAccepted = true ∧
        h.passages[1]? = some y ∧ y.isSuppressed = true) ∧
      mailOf h.database = [Letter.ofEnvelope Sample.letter] := by
  intro schedule
  have hes : ∀ e ∈ [Sample.letter, Sample.letter],
      e.token? = some "x" ∧ e.notes = [] ∧ e.queueId.isSome = true := by
    decide +kernel
  have hp : PingTable.describe? (some "pings") (some tokenColumn) = .ok Sample.pings := by decide
  obtain ⟨h, evs, hrun, hwho, -, -, hmail, -⟩ := interleaving_accepts_iff hp
    (by decide : statementName "pings" = .ok "pings") Sample.ready_database (by decide) hes schedule
  -- the first message looks up before anything is written, and the second one behind the write-back
  have hevents : evs.filterMap Event.letter? = [Letter.ofEnvelope Sample.letter] ∧
      Early 0 evs ∧ .looked 1 ∈ evs ∧ ¬ Early 1 evs := by
    have hevs : evs = ((Hall.start [Sample.letter, Sample.letter] Sample.database).run Sample.pings
        schedule).2 := by rw [hrun]
    rw [hevs]
    decide +kernel
  obtain ⟨hletters, hfirst, hlooked, hlate⟩ := hevents
  obtain ⟨x, hx, hacc, -⟩ := hwho 0 Sample.letter rfl
  obtain ⟨y, hy, -, hsupp, -⟩ := hwho 1 Sample.letter rfl
  refine ⟨h, evs, hrun, ⟨x, y, hx, hacc.mpr hfirst, hy, hsupp.mpr ⟨hlooked, hlate⟩⟩, ?_⟩
  rw [hmail, hletters]
  rfl

/-- Two messages whose lookups both come before the first write-back are both accepted and both kept:
the lookup does not consume the token. -/
theorem two_accepted :
    let schedule := [0, 1, 0, 1, 0, 1].map fun i => (i, Sample.noon)
    let h := ((Hall.start [Sample.letter, Sample.letter] Sample.database).run Sample.pings
      schedule).1
    h.passages.map Passage.isAccepted = [true, true] ∧ (mailOf h.database).length = 2 := by
  decide +kernel

end DeliveryWatch
