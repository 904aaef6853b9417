/-
The delay of a delivery is always there, and always has a place in a cell.

* `receivedTimes_isZoned`, `receivedTimes_inRange` — the times of trace fields all have zones, and are
  in the range of mail dates;
* `IsSteady` — readings of one zone are told at one distance to UTC, as those of fixed zones always are;
* `delay_eq_span` — the delay of such readings is that of their instants, from the least to the greatest;
* `delay_le` — it is no longer than that between two instants on either side of them;
* `delay_congr`, `delay_perm` — it depends on the instants only, in whatever order;
* `messageDelay_eq_recordedDelay`, `fitsCell_recordedDelay` — so the delay of a message is never refused,
  and fits a cell;
* `exists_delivery_eq` — what is written to a ping: the delay of the message, and the parts it splits into.
-/
import DeliveryWatch.Proofs.Time.Range
import DeliveryWatch.Proofs.Trace.Seconds
import DeliveryWatch.Stage.TokenFilter
import Mathlib.Data.List.Basic

namespace DeliveryWatch.Trace

/-! ### Times of trace fields -/

/-- A time that is read from a trace field is a mail date, in UTC if it has no zone. -/
theorem eq_orUtc_of_readTime {value : String} {t : Time} (h : readTime value = .ok t) :
    ∃ u : Time, u.InRange ∧ t = u.orUtc := by
  rw [readTime] at h
  split at h
  · cases h
  · simp only at h
    split at h
    · rename_i u hu
      cases h
      exact ⟨u, MailDate.inRange_of_timeOf hu, rfl⟩
    · cases h

theorem eq_orUtc_of_mem {raw : String} {t : Time} (h : t ∈ receivedTimes raw) :
    ∃ u : Time, u.InRange ∧ t = u.orUtc := by
  obtain ⟨v, -, hv⟩ := List.mem_filterMap.mp h
  cases hr : readTime v with
  | error f =>
    rw [hr] at hv
    cases hv
  | ok u =>
    rw [hr] at hv
    cases hv
    exact eq_orUtc_of_readTime hr

theorem receivedTimes_isZoned {raw : String} {t : Time} (h : t ∈ receivedTimes raw) :
    t.isZoned = true := by
  obtain ⟨u, -, rfl⟩ := eq_orUtc_of_mem h
  exact Time.isZoned_orUtc u

theorem receivedTimes_inRange {raw : String} {t : Time} (h : t ∈ receivedTimes raw) :
    t.InRange := by
  obtain ⟨u, hu, rfl⟩ := eq_orUtc_of_mem h
  exact hu.orUtc

/-! ### Instants -/

section Readings

variable {ι : Type} {z : Zones ι} {times times' : List (Reading ι)} {n : Nat}

/-- Readings of one zone are told at one distance to UTC. -/
def IsSteady (z : Zones ι) (times : List (Reading ι)) : Prop :=
  ∀ a ∈ times, ∀ b ∈ times, a.zone = b.zone → a.ahead z = b.ahead z

theorem IsSteady.of_subset (h : IsSteady z times') (hsub : times ⊆ times') : IsSteady z times :=
  fun a ha b hb => h a (hsub ha) b (hsub hb)

variable [DecidableEq ι]

/-- The distance of two readings is that of their instants. -/
theorem IsSteady.since_eq (h : IsSteady z times) {a b : Reading ι} (ha : a ∈ times) (hb : b ∈ times) :
    a.since z b = a.instant z - b.instant z := by
  rw [Reading.since]
  split
  · rename_i hzone
    have hahead := h a ha b hb hzone
    rw [Reading.instant, Reading.instant]
    omega
  · rfl

/-- Whole seconds from the least to the greatest of some instants. -/
def span (instants : List Int) : Nat :=
  let sorted := instants.mergeSort (· ≤ ·)
  match sorted.head?, sorted.getLast? with
  | some first, some last => wholeSeconds (last - first).toNat
  | _, _ => 0

theorem pairwise_mergeSort_instants (instants : List Int) :
    (instants.mergeSort (· ≤ ·)).Pairwise (· ≤ ·) :=
  (List.pairwise_mergeSort (fun a b c hab hbc => by simp only [decide_eq_true_eq] at *; omega)
    (fun a b => by simp only [Bool.or_eq_true, decide_eq_true_eq]; omega) instants).imp of_decide_eq_true

theorem span_perm {is js : List Int} (h : is.Perm js) : span is = span js := by
  have hsorted : is.mergeSort (· ≤ ·) = js.mergeSort (· ≤ ·) :=
    ((List.mergeSort_perm is _).trans (h.trans (List.mergeSort_perm js _).symm)).eq_of_pairwise
      (fun a b _ _ hab hba => Int.le_antisymm hab hba) (pairwise_mergeSort_instants is)
      (pairwise_mergeSort_instants js)
  rw [span, span, hsorted]

/-- If the distances of some readings are those of their places on an axis, they are in order when their
places are. -/
theorem map_inOrder {place : Reading ι → Int}
    (h : ∀ a ∈ times, ∀ b ∈ times, a.since z b = place a - place b) :
    (inOrder z id times).map place = (times.map place).mergeSort (· ≤ ·) := by
  refine List.map_mergeSort fun a ha b hb => ?_
  rw [id, id, h a ha b hb]
  exact decide_eq_decide.mpr (by omega)

/-- The delay of such readings is the span of their places. -/
theorem delay_eq_span_of_since {place : Reading ι → Int}
    (h : ∀ a ∈ times, ∀ b ∈ times, a.since z b = place a - place b) : delay z times
      = if comparable times then .ok (span (times.map place)) else .error .mixedZones := by
  have hmem : ∀ t ∈ inOrder z id times, t ∈ times := fun t ht => List.mem_mergeSort.mp ht
  rw [delay, sortTimes, List.map_id]
  cases comparable times with
  | false => rfl
  | true =>
    rw [span, ← map_inOrder h, List.head?_map, List.getLast?_map]
    simp only [if_true, bind, Except.bind]
    cases hs : inOrder z id times with
    | nil => rfl
    | cons first rest =>
      cases hl : (first :: rest).getLast? with
      | none => rfl
      | some last =>
        -- first and last are members, so their distance is that of their places
        rw [hs] at hmem
        have hsince := h last (hmem last (List.mem_of_getLast? hl)) first (hmem first List.mem_cons_self)
        simp only [List.head?_cons, Option.map_some, hsince]
        rfl

theorem delay_eq_span (h : IsSteady z times) : delay z times
    = if comparable times then .ok (span (times.map (Reading.instant z))) else .error .mixedZones :=
  delay_eq_span_of_since fun _ ha _ hb => h.since_eq ha hb

/-- Times with the same instants have the same delay. -/
theorem delay_congr (h : IsSteady z times) (h' : IsSteady z times')
    (hinstants : (times.map (Reading.instant z)).Perm (times'.map (Reading.instant z)))
    (hcomparable : comparable times = comparable times') : delay z times = delay z times' := by
  rw [delay_eq_span h, delay_eq_span h', hcomparable, span_perm hinstants]

theorem delay_perm (h : IsSteady z times) (hperm : times.Perm times') :
    delay z times = delay z times' := by
  refine delay_congr h (h.of_subset hperm.symm.subset) (hperm.map _) ?_
  rw [comparable, comparable, hperm.all_eq, hperm.all_eq]

theorem delay_le (h : IsSteady z times) {low high : Int} (hlow : ∀ t ∈ times, low ≤ t.instant z)
    (hhigh : ∀ t ∈ times, t.instant z ≤ high) (hn : delay z times = .ok n) :
    n ≤ wholeSeconds (high - low).toNat := by
  -- the first and the last instant lie between the bounds
  have hmem : ∀ i ∈ (times.map (Reading.instant z)).mergeSort (· ≤ ·), low ≤ i ∧ i ≤ high := by
    intro i hi
    obtain ⟨t, ht, rfl⟩ := List.mem_map.mp (List.mem_mergeSort.mp hi)
    exact ⟨hlow t ht, hhigh t ht⟩
  rw [delay_eq_span h] at hn
  split at hn
  · cases hn
    rw [span]
    split
    · rename_i first last hfirst hlast
      have hf := hmem first (List.mem_of_head? hfirst)
      have hl := hmem last (List.mem_of_getLast? hlast)
      exact wholeSeconds_mono (Int.toNat_le_toNat (by omega))
    · exact Nat.zero_le _
  · cases hn

theorem exists_delay (h : IsSteady z times) (hc : comparable times = true) :
    ∃ n, delay z times = .ok n := by
  rw [delay_eq_span h, if_pos hc]
  exact ⟨_, rfl⟩

end Readings

/-! ### The delay of a message -/

/-- Zones that never move tell readings at one distance to UTC. -/
theorem isSteady_of_fixed {ι : Type} (distance : ι → Int) (times : List (Reading ι)) :
    IsSteady (fun i _ _ => distance i) times := by
  intro a _ b _ hzone
  rw [Reading.ahead, Reading.ahead, hzone]

theorem isSteady_fixedZones (times : List (Reading Int)) : IsSteady fixedZones times :=
  isSteady_of_fixed (· * 1000000) times

@[simp] theorem instant_readingOf (t : Time) : (readingOf t).instant fixedZones = t.instant := by
  rw [Reading.instant, Reading.ahead, readingOf, Time.instant]
  cases t.offset with
  | none => simp
  | some offset =>
    simp only [Option.map_some, Option.getD_some, fixedZones]
    omega

theorem comparable_receivedTimes (data : String) :
    comparable ((receivedTimes data).map readingOf) = true := by
  have hzoned : ((receivedTimes data).map readingOf).all Reading.isZoned = true := by
    rw [List.all_map]
    exact List.all_eq_true.mpr fun t ht => receivedTimes_isZoned ht
  rw [comparable, hzoned, Bool.true_or]

/-- The delay of a message is never refused: it is the one that is recorded. -/
theorem messageDelay_eq_recordedDelay (data : String) :
    messageDelay data = .ok (Stage.recordedDelay data) := by
  obtain ⟨n, hn⟩ := exists_delay (isSteady_fixedZones _) (comparable_receivedTimes data)
  rw [Stage.recordedDelay]
  rw [messageDelay, hn]

theorem messageDelay_le_of_instant {data : String} {n : Nat} {low high : Int}
    (hlow : ∀ t ∈ receivedTimes data, low ≤ t.instant) (hhigh : ∀ t ∈ receivedTimes data, t.instant ≤ high)
    (h : messageDelay data = .ok n) : n ≤ wholeSeconds (high - low).toNat := by
  refine delay_le (isSteady_fixedZones _) ?_ ?_ h
  · intro r hr
    obtain ⟨t, ht, rfl⟩ := List.mem_map.mp hr
    rw [instant_readingOf]
    exact hlow t ht
  · intro r hr
    obtain ⟨t, ht, rfl⟩ := List.mem_map.mp hr
    rw [instant_readingOf]
    exact hhigh t ht

theorem fitsCell_recordedDelay (data : String) :
    Database.fitsCell (Stage.recordedDelay data) = true := by
  have h := messageDelay_le_of_instant (fun t ht => (receivedTimes_inRange ht).neg_lt_instant.le)
    (fun t ht => (receivedTimes_inRange ht).instant_le) (messageDelay_eq_recordedDelay data)
  have hbound := h.trans (wholeSeconds_le _)
  rw [Database.fitsCell, Database.cellLimit]
  rw [Bool.and_eq_true, decide_eq_true_iff, decide_eq_true_iff]
  omega

/-- What is written to a ping: the delay and the parts of the message. -/
theorem exists_delivery_eq (data : String) : ∃ delay parts, messageDelay data = .ok delay ∧
    (Message.splitMessage data = .ok parts ∨
      ∃ fault, Message.splitMessage data = .error (fault, parts)) ∧
    ∀ token now, Stage.delivery token data now = ⟨token, delay, parts.header, parts.body, now⟩ := by
  refine ⟨Stage.recordedDelay data, (Stage.recordedParts data).1, messageDelay_eq_recordedDelay data, ?_,
    fun token now => rfl⟩
  rw [Stage.recordedParts]
  cases Message.splitMessage data with
  | ok parts => exact .inl rfl
  | error x => exact .inr ⟨x.1, rfl⟩

end DeliveryWatch.Trace
