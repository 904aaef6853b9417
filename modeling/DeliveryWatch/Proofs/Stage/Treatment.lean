/-
What the filter does with a message, over any store of pings that fails only as it may.

* `callsFor` — the calls of the store that a message leads to; `filter_tapped` — the filter makes these
  and no others;
* `Treatment` — what becomes of the message, and of the counts, and which calls the store gets;
  `Course.treatment` — every way through the filter gives it;
* `treatment_of_message` — so every message gets this treatment, and is taken.
-/
import DeliveryWatch.Proofs.Ledger.Calls
import DeliveryWatch.Proofs.Stage.Course

namespace DeliveryWatch.Stage

open Ledger

variable {σ : Type}

/-! ### Calls of the filter -/

section Calls

variable (store : Store σ) (clock : σ → Time) (token : String) (e : Envelope) (s : Scene σ)
  (earlier : List Call)

/-- The calls that a message leads to which is to be saved: a lookup if it has a token, and a write-back
if a ping was found. -/
def callsFor (r : σ) : List Call :=
  match Ping.token? e.subject with
  | none => []
  | some token =>
    match (store.find token r).result with
    | .ok (some _) =>
      [.find token, .record (delivery token e.data (clock (store.find token r).resources))]
    | _ => [.find token]

theorem note_tap (level : Log.Level) (text : String) :
    (s.tap earlier).note level text = (s.note level text).tap earlier := rfl

theorem resources_tap : (s.tap earlier).resources = ⟨s.resources, earlier⟩ := rfl

/-- A write-back is one call. -/
theorem recordDelivery_tapped :
    recordDelivery store.tapped (fun r => clock r.resources) token e (s.tap earlier)
      = ((recordDelivery store clock token e s).1, (recordDelivery store clock token e s).2.tap
          (earlier ++ [.record (delivery token e.data (clock s.resources))])) := by
  have hrecord : ∀ d r, store.tapped.record d ⟨r, earlier⟩
      = (store.record d r).tap (earlier ++ [.record d]) := fun d r => rfl
  have hresult : ∀ (x : Report σ Nat) calls, (x.tap calls).result = x.result := fun x calls => rfl
  rw [recordDelivery, recordDelivery]
  -- the account of a message that cannot be split goes to the log only
  cases (recordedParts e.data).2
  all_goals
    simp only [note_tap, resources_tap, hrecord, settle_tap, hresult, Scene.resources_note]
    cases (store.record (delivery token e.data (clock s.resources)) s.resources).result with
    | ok k => rfl
    | error f =>
      cases f with
      | update text => rfl
      | _ => rfl

/-- **The filter makes these calls and no others**, and it does what it does without the notes. -/
theorem filter_tapped :
    filter store.tapped (fun r => clock r.resources) e (s.tap earlier)
      = ((filter store clock e s).1, (filter store clock e s).2.1,
          (filter store clock e s).2.2.tap (earlier ++ callsFor store clock e s.resources)) := by
  rw [filter, filter, callsFor]
  cases Ping.token? e.subject with
  | none =>
    rw [List.append_nil]
    rfl
  | some token =>
    have hfind : store.tapped.find token (s.tap earlier).resources
        = (store.find token s.resources).tap (earlier ++ [.find token]) := rfl
    have hresult : ((store.find token s.resources).tap (earlier ++ [.find token])).result
        = (store.find token s.resources).result := rfl
    simp only [hfind, hresult, settle_tap]
    cases (store.find token s.resources).result with
    | error f =>
      cases f with
      | lookup text => rfl
      | _ => rfl
    | ok found =>
      cases found with
      | none => rfl
      -- a delivery is written back, and the count of the decision makes no call
      | some ping =>
        have hcount : ((settle (store.find token s.resources) s).tap
            (earlier ++ [.find token])).countDecision .accepted
          = ((settle (store.find token s.resources) s).countDecision .accepted).tap
            (earlier ++ [.find token]) := rfl
        have hresources : ((settle (store.find token s.resources) s).countDecision .accepted).resources
            = (store.find token s.resources).resources := resources_settle _ s
        simp only [hcount, recordDelivery_tapped, hresources, List.append_assoc]
        rfl

end Calls

/-! ### Treatment of a message -/

section Treatment

variable (store : Store σ) (clock : σ → Time)

/-- The ping that is found for a message: the one of its token, if the message is to be saved. -/
def pingFor (task : Task) (e : Envelope) (r : σ) : Option Ping :=
  match task, Ping.token? e.subject with
  | .saveMail, some token =>
    match (store.find token r).result with
    | .ok found => found
    | .error _ => none
  | _, _ => none

/-- What becomes of a message, of the counts, and of the store, which gets these calls. -/
structure Treatment (task : Task) (e : Envelope) (s : Scene σ) (calls : List Call) (e' : Envelope)
    (s' : Scene σ) : Prop where
  /-- A message that is not to be saved, or that has no token, leads to no call. -/
  silent : task ≠ .saveMail ∨ Ping.token? e.subject = none → calls = []
  /-- Any other one leads to one lookup of its token, and to one write-back if a ping was found. What is
  written is the delay between the times of the trace fields, and the parts of the message, complete or
  as far as it could be split. -/
  asked : ∀ token, task = .saveMail → Ping.token? e.subject = some token → ∃ delay parts,
    Trace.messageDelay e.data = .ok delay ∧
    (Message.splitMessage e.data = .ok parts ∨
      ∃ fault, Message.splitMessage e.data = .error (fault, parts)) ∧
    calls = .find token :: (pingFor store task e s.resources).toList.map fun _ =>
      .record ⟨token, delay, parts.header, parts.body, clock (store.find token s.resources).resources⟩
  /-- A message that is to be saved and has no ping is marked, and nothing else of it changes. -/
  marked : task = .saveMail → pingFor store task e s.resources = none →
    e'.note? Envelope.ignoreKey = some (.bool true) ∧
      (∀ key, key ≠ Envelope.ignoreKey → e'.note? key = e.note? key) ∧ { e' with notes := e.notes } = e
  /-- Any other message stays as it is. -/
  kept : task ≠ .saveMail ∨ (pingFor store task e s.resources).isSome → e' = e
  /-- One decision is counted for a message that is to be saved: it is accepted if it has a ping. -/
  decided : task = .saveMail → ∃ d, s.metrics.decisions.OneMore d s'.metrics.decisions ∧
    (d = .accepted ↔ (pingFor store task e s.resources).isSome)
  /-- For one that has a ping, either its delay is counted or a failure of the update. -/
  counted : (pingFor store task e s.resources).isSome → ∃ delay,
    Trace.messageDelay e.data = .ok delay ∧
      (s'.metrics.delays = s.metrics.delays ++ [delay] ∧
          s'.metrics.updateFailures = s.metrics.updateFailures ∨
        s'.metrics.delays = s.metrics.delays ∧
          s'.metrics.updateFailures = s.metrics.updateFailures + 1)
  /-- For any other one neither of them is counted. -/
  uncounted : pingFor store task e s.resources = none → s'.metrics.delays = s.metrics.delays ∧
    s'.metrics.updateFailures = s.metrics.updateFailures
  /-- A message that is not to be saved changes nothing at all. -/
  passed : task ≠ .saveMail → s' = s

variable {store clock} {e : Envelope}

theorem pingFor_of_token {token : String} (h : Ping.token? e.subject = some token) {r : σ}
    {found : Option Ping} (hf : (store.find token r).result = .ok found) :
    pingFor store .saveMail e r = found := by
  simp only [pingFor, h, hf]

theorem pingFor_of_none (h : Ping.token? e.subject = none) (task : Task) (r : σ) :
    pingFor store task e r = none := by
  simp only [pingFor, h]

theorem pingFor_checkRecipient (e : Envelope) (r : σ) :
    pingFor store .checkRecipient e r = none := by
  rw [pingFor]
  intro token h
  cases h

/-- The calls, with the ping that was found in place of the answer of the store. -/
theorem callsFor_of_token {token : String} (h : Ping.token? e.subject = some token) (r : σ) :
    callsFor store clock e r = .find token :: (pingFor store .saveMail e r).toList.map fun _ =>
      .record (delivery token e.data (clock (store.find token r).resources)) := by
  simp only [callsFor, pingFor, h]
  cases (store.find token r).result with
  | error f => rfl
  | ok found =>
    cases found with
    | none => rfl
    | some ping => rfl

/-- The messages that have a ping are those that are accepted. -/
theorem Course.isSome_pingFor_iff {r r' : σ} {v : Verdict} (h : Course store clock e r v r') :
    (pingFor store .saveMail e r).isSome ↔ v.decision = .accepted := by
  cases h with
  | noToken ht => simp [pingFor_of_none ht, Verdict.decision]
  | notFound ht hf => simp [pingFor_of_token ht hf, Verdict.decision]
  | lookupError ht hf => simp [pingFor, ht, hf, Verdict.decision]
  | written ht hf hr' hr => simp [pingFor_of_token ht hf, Verdict.decision]
  | unwritten ht hf hr' hr => simp [pingFor_of_token ht hf, Verdict.decision]

theorem Course.counted {r r' : σ} {v : Verdict} (h : Course store clock e r v r')
    (hv : v.decision = .accepted) (m : StageMetrics) : ∃ delay, Trace.messageDelay e.data = .ok delay ∧
      ((v.count m).delays = m.delays ++ [delay] ∧ (v.count m).updateFailures = m.updateFailures ∨
        (v.count m).delays = m.delays ∧ (v.count m).updateFailures = m.updateFailures + 1) := by
  refine ⟨recordedDelay e.data, Trace.messageDelay_eq_recordedDelay e.data, ?_⟩
  cases h with
  | noToken ht => cases hv
  | notFound ht hf => cases hv
  | lookupError ht hf => cases hv
  | written ht hf hr' hr => exact .inl ⟨rfl, rfl⟩
  | unwritten ht hf hr' hr => exact .inr ⟨rfl, rfl⟩

theorem Verdict.uncounted {v : Verdict} (hv : v.decision ≠ .accepted) (m : StageMetrics) :
    (v.count m).delays = m.delays ∧ (v.count m).updateFailures = m.updateFailures := by
  cases v with
  | written delay => exact absurd rfl hv
  | unwritten => exact absurd rfl hv
  | _ => exact ⟨rfl, rfl⟩

theorem Verdict.decisions_count (v : Verdict) (m : StageMetrics) :
    (v.count m).decisions = m.decisions.add v.decision := by
  cases v with
  | _ => rfl

theorem Course.treatment {s s' : Scene σ} {v : Verdict} (h : Course store clock e s.resources v s'.resources)
    (hcount : s'.metrics = v.count s.metrics) :
    Treatment store clock .saveMail e s (callsFor store clock e s.resources) (v.apply e) s' := by
  have hiff := h.isSome_pingFor_iff
  -- a message without a ping was not accepted
  have hnone : pingFor store .saveMail e s.resources = none → v.decision ≠ .accepted := by
    intro hp hv
    rw [hp] at hiff
    cases hiff.mpr hv
  refine ⟨?_, ?_, ?_, ?_, ?_, ?_, ?_, ?_⟩
  · rintro (htask | ht)
    · exact absurd rfl htask
    · rw [callsFor, ht]
  · intro token _ ht
    obtain ⟨delay, parts, hdelay, hparts, heq⟩ := Trace.exists_delivery_eq e.data
    refine ⟨delay, parts, hdelay, hparts, ?_⟩
    rw [callsFor_of_token ht, heq]
  · intro _ hp
    rw [Verdict.apply, if_neg (hnone hp)]
    exact ⟨Envelope.note?_annotate e _ _, fun key hkey => e.note?_annotate_of_ne hkey _, rfl⟩
  · rintro (htask | hp)
    · exact absurd rfl htask
    · rw [Verdict.apply, if_pos (hiff.mp hp)]
  · intro _
    refine ⟨v.decision, ?_, hiff.symm⟩
    rw [hcount, v.decisions_count]
    exact s.metrics.decisions.oneMore_add v.decision
  · intro hp
    rw [hcount]
    exact h.counted (hiff.mp hp) s.metrics
  · intro hp
    rw [hcount]
    exact Verdict.uncounted (hnone hp) s.metrics
  · intro htask
    exact absurd rfl htask

/-- **The filter over any store of pings.** As long as the store fails only as it may, every message is
taken, and gets the treatment; a store that notes its calls gets those of the treatment, and changes
nothing else. -/
theorem treatment_of_message (h : store.IsDutiful) (task : Task) (e : Envelope) (s : Scene σ)
    (earlier : List Call) : ∃ calls e' s',
      (tokenFilter store clock).process task e s = (.ok (Reply.accepted e.queueId), e', s') ∧
      (tokenFilter store.tapped fun r => clock r.resources).process task e (s.tap earlier)
        = (.ok (Reply.accepted e.queueId), e', s'.tap (earlier ++ calls)) ∧
      Treatment store clock task e s calls e' s' := by
  cases task with
  | checkRecipient =>
    refine ⟨[], e, s, rfl, ?_, ?_⟩
    · rw [List.append_nil]
      rfl
    · have hping : pingFor store .checkRecipient e s.resources = none :=
        pingFor_checkRecipient e s.resources
      refine ⟨fun _ => rfl, nofun, nofun, fun _ => rfl, nofun, ?_, fun _ => ⟨rfl, rfl⟩, fun _ => rfl⟩
      intro hp
      rw [hping] at hp
      cases hp
  | saveMail =>
    obtain ⟨v, r, s', hfilter, hr, hcount, hcourse⟩ := exists_course clock e s h
    have htapped := filter_tapped store clock e s earlier
    rw [← hr] at hcourse
    rw [hfilter] at htapped
    refine ⟨callsFor store clock e s.resources, v.apply e, s', ?_, ?_, hcourse.treatment hcount⟩
    · simp only [tokenFilter, hfilter, Verdict.queueId_apply]
    · simp only [tokenFilter, htapped, Verdict.queueId_apply]

end Treatment

/-- The mail of a ping that waits is looked up and written back, and not marked. -/
theorem treatment_of_message_pings :
    (Ledger.Sample.pings.store Premises.access).IsDutiful ∧ ∃ e' s',
      (tokenFilter (Ledger.Sample.pings.store Premises.access).tapped fun r => r.resources.now).process
        .saveMail { Ledger.Sample.letter with subject := some "guid: x" }
        (Scene.tap { resources := Sample.premises } []) = (.ok (Reply.accepted (some "q")), e', s') ∧
      s'.resources.calls = [.find "x",
        .record ⟨"x", 0, "Subject: guid: x", "hello", Ledger.Sample.noon⟩] ∧
      e'.isIgnored = false := by
  have hdutiful := @PingTable.isDutiful_store _ Ledger.Sample.pings Premises.access (by decide)
  obtain ⟨calls, e', s', -, htapped, ht⟩ := @treatment_of_message _ _ Premises.now hdutiful
    .saveMail { Ledger.Sample.letter with subject := some "guid: x" } { resources := Sample.premises } []
  have hfound : pingFor (Ledger.Sample.pings.store Premises.access) .saveMail
      { Ledger.Sample.letter with subject := some "guid: x" } Sample.premises
        = some ⟨"x", .value (.text "x")⟩ := by decide +kernel
  refine ⟨hdutiful, e', _, htapped, ?_, ?_⟩
  -- the delay and the parts are those that the message has
  · obtain ⟨delay, parts, hdelay, hparts, hcalls⟩ := ht.asked "x" rfl (by decide)
    have hsplit : Message.splitMessage Ledger.Sample.letter.data
        = .ok ⟨"Subject: guid: x", "hello"⟩ := by decide +kernel
    have hzero : Trace.messageDelay Ledger.Sample.letter.data = .ok 0 := by decide +kernel
    obtain rfl : (0 : Nat) = delay := Except.ok.inj (hzero.symm.trans hdelay)
    rcases hparts with hparts | ⟨fault, hparts⟩
    · obtain rfl := Except.ok.inj (hsplit.symm.trans hparts)
      rw [hfound] at hcalls
      exact hcalls
    · cases hsplit.symm.trans hparts
  · rw [ht.kept (.inr (by rw [hfound]; rfl))]
    rfl

end DeliveryWatch.Stage
