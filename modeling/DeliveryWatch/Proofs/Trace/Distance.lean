/-
The delay is the greatest distance between two of the times, unless a zone has moved between them.

* `Ends` — the least and the greatest of some instants; `Ends.span_eq` — the span is that between them;
* `delay_mono` — so more times make no delay shorter;
* `secondsBetween` — the distance of two times in whole seconds; `Ends.isGreatest` — that of the ends is
  the greatest, and it is counted without a mistake if the times are `IsExact`;
* `delay_is_greatest_distance` — the delay as the greatest distance, which neither order nor zones change;
* `delay_of_one_zone` — times of one zone are taken by what their clocks show, whatever the zone is;
* `delay_ne_greatest_distance` — so the delay is wrong by an hour in a night in which the clocks are put
  forward, and by a second over great distances in which a zone counts parts of a second.
-/
import DeliveryWatch.Proofs.Trace.Delay
import Mathlib.Algebra.Group.Int.Defs
import Mathlib.Data.List.Forall2
import Mathlib.Data.List.Pairwise
import Mathlib.Order.Bounds.Defs

namespace DeliveryWatch.Trace

/-! ### The ends of a list of instants -/

section Ends

variable {instants : List Int} {first last : Int}

/-- The least and the greatest of some instants. -/
structure Ends (instants : List Int) (first last : Int) : Prop where
  first_mem : first ∈ instants
  last_mem : last ∈ instants
  first_le : ∀ i ∈ instants, first ≤ i
  le_last : ∀ i ∈ instants, i ≤ last

/-- The ends of the instants are those of the instants in order. -/
theorem ends_mergeSort (h : instants.mergeSort (· ≤ ·) ≠ []) :
    Ends instants ((instants.mergeSort (· ≤ ·)).head h) ((instants.mergeSort (· ≤ ·)).getLast h) where
  first_mem := List.mem_mergeSort.mp (List.head_mem h)
  last_mem := List.mem_mergeSort.mp (List.getLast_mem h)
  first_le _ hi :=
    (pairwise_mergeSort_instants instants).rel_head_of_rel_head_head (List.mem_mergeSort.mpr hi)
      (Int.le_refl _)
  le_last _ hi :=
    (pairwise_mergeSort_instants instants).rel_getLast_of_rel_getLast_getLast (List.mem_mergeSort.mpr hi)
      (Int.le_refl _)

theorem mergeSort_ne_nil (h : instants ≠ []) : instants.mergeSort (· ≤ ·) ≠ [] := by
  obtain ⟨i, hi⟩ := List.exists_mem_of_ne_nil instants h
  exact List.ne_nil_of_mem (List.mem_mergeSort.mpr hi)

theorem exists_ends (h : instants ≠ []) : ∃ first last, Ends instants first last :=
  ⟨_, _, ends_mergeSort (mergeSort_ne_nil h)⟩

namespace Ends

theorem unique {first' last' : Int} (h : Ends instants first last) (h' : Ends instants first' last') :
    first = first' ∧ last = last' :=
  ⟨Int.le_antisymm (h.first_le _ h'.first_mem) (h'.first_le _ h.first_mem),
    Int.le_antisymm (h'.le_last _ h.last_mem) (h.le_last _ h'.last_mem)⟩

theorem span_eq (h : Ends instants first last) : span instants = wholeSeconds (last - first).toNat := by
  have hne := mergeSort_ne_nil (List.ne_nil_of_mem h.first_mem)
  obtain ⟨hfirst, hlast⟩ := h.unique (ends_mergeSort hne)
  rw [span, List.head?_eq_some_head hne, List.getLast?_eq_some_getLast hne, hfirst, hlast]

end Ends

theorem span_nil : span [] = 0 := by
  rw [span, List.mergeSort_nil]
  rfl

theorem span_mono {is js : List Int} (hsub : is ⊆ js) : span is ≤ span js := by
  by_cases hnil : is = []
  · rw [hnil, span_nil]
    exact Nat.zero_le _
  · obtain ⟨first, last, h⟩ := exists_ends hnil
    obtain ⟨first', last', h'⟩ := exists_ends (List.ne_nil_of_mem (hsub h.first_mem))
    -- the ends of the longer list lie farther out
    have hfirst := h'.first_le first (hsub h.first_mem)
    have hlast := h'.le_last last (hsub h.last_mem)
    rw [h.span_eq, h'.span_eq]
    exact wholeSeconds_mono (Int.toNat_le_toNat (by omega))

end Ends

variable {ι : Type} {z : Zones ι} {times times' : List (Reading ι)} {m n : Nat}

section Delay

variable [DecidableEq ι]

theorem eq_span_of_delay (h : IsSteady z times) (hn : delay z times = .ok n) :
    n = span (times.map (Reading.instant z)) := by
  rw [delay_eq_span h] at hn
  split at hn
  · cases hn
    rfl
  · cases hn

/-- **More times make no delay shorter.** -/
theorem delay_mono (h : IsSteady z times') (hsub : times ⊆ times') (hm : delay z times = .ok m)
    (hn : delay z times' = .ok n) : m ≤ n := by
  rw [eq_span_of_delay (h.of_subset hsub) hm, eq_span_of_delay h hn]
  exact span_mono (List.map_subset _ hsub)

end Delay

/-! ### Distances -/

/-- Whole seconds from one time to another, by their exact instants; the fraction is dropped. -/
def secondsBetween (z : Zones ι) (a b : Reading ι) : Int := (a.instant z - b.instant z).tdiv 1000000

/-- Times whose zones are all known or all unknown and stay at one distance to UTC, and whose distances are
counted without a mistake: they are below `2 ^ 34` seconds, or whole seconds. -/
structure IsExact (z : Zones ι) (times : List (Reading ι)) : Prop where
  zones : (∀ t ∈ times, t.isZoned = true) ∨ ∀ t ∈ times, t.isZoned = false
  steady : IsSteady z times
  fine : (∀ a ∈ times, ∀ b ∈ times, a.instant z - b.instant z < 2 ^ 34 * 1000000) ∨
    ∀ t ∈ times, t.wall % 1000000 = 0 ∧ t.ahead z % 1000000 = 0

theorem IsExact.comparable (h : IsExact z times) : comparable times = true := by
  rw [Trace.comparable, Bool.or_eq_true, List.all_eq_true, List.all_eq_true]
  simp only [Bool.not_eq_true']
  exact h.zones

namespace Ends

variable {first last : Int}

/-- The distance of the ends is counted without a mistake. -/
theorem wholeSeconds_eq (h : Ends (times.map (Reading.instant z)) first last) (hx : IsExact z times) :
    (wholeSeconds (last - first).toNat : Int) = (last - first).tdiv 1000000 := by
  obtain ⟨a, ha, rfl⟩ := List.mem_map.mp h.first_mem
  obtain ⟨b, hb, rfl⟩ := List.mem_map.mp h.last_mem
  have hle := h.first_le _ h.last_mem
  -- the distances are below the limit of the rounding, or whole seconds
  have hexact : (b.instant z - a.instant z).toNat < 2 ^ 34 * 1000000 ∨
      (b.instant z - a.instant z).toNat % 1000000 = 0 := by
    rcases hx.fine with hnear | hwhole
    · have hlt := hnear b hb a ha
      exact .inl (by omega)
    · have hfirst := hwhole a ha
      have hlast := hwhole b hb
      rw [Reading.instant, Reading.instant]
      exact .inr (by omega)
  rw [wholeSeconds_eq_div hexact, Int.tdiv_eq_ediv_of_nonneg (by omega)]
  omega

/-- **The distance of the ends is the greatest.** -/
theorem isGreatest (h : Ends (times.map (Reading.instant z)) first last) :
    IsGreatest {s | ∃ a ∈ times, ∃ b ∈ times, s = secondsBetween z a b} ((last - first).tdiv 1000000) := by
  obtain ⟨a, ha, rfl⟩ := List.mem_map.mp h.first_mem
  obtain ⟨b, hb, rfl⟩ := List.mem_map.mp h.last_mem
  refine ⟨⟨b, hb, a, ha, rfl⟩, ?_⟩
  rintro _ ⟨c, hc, d, hd, rfl⟩
  have hfirst := h.first_le _ (List.mem_map_of_mem hd)
  have hlast := h.le_last _ (List.mem_map_of_mem hc)
  exact Int.tdiv_le_tdiv (by decide) (by omega)

end Ends

/-! ### Zones -/

/-- The same moment, told in one zone or another; a zone that is not known stays so. -/
structure SameMoment (z : Zones ι) (a b : Reading ι) : Prop where
  zoned : a.isZoned = b.isZoned
  instant : a.instant z = b.instant z

/-- What is the same for the same moments is the same for lists of them. -/
theorem map_of_sameMoments {β : Type} {f : Reading ι → β} (hf : ∀ a b, SameMoment z a b → f a = f b)
    (h : List.Forall₂ (SameMoment z) times times') : times'.map f = times.map f := by
  induction h with
  | nil => rfl
  | cons hab _ ih => rw [List.map_cons, List.map_cons, hf _ _ hab, ih]

variable [DecidableEq ι]

/-- The delay does not depend on the zones in which the moments are told. -/
theorem delay_of_sameMoments (h : IsSteady z times) (h' : IsSteady z times')
    (hsame : List.Forall₂ (SameMoment z) times times') : delay z times' = delay z times := by
  have hinstants := map_of_sameMoments (fun _ _ => SameMoment.instant) hsame
  have hzones := map_of_sameMoments (fun _ _ => SameMoment.zoned) hsame
  have hcomparable : ∀ ts : List (Reading ι), comparable ts =
      ((ts.map Reading.isZoned).all id || (ts.map Reading.isZoned).all (!·)) := by
    intro ts
    rw [comparable, List.all_map, List.all_map]
    rfl
  refine delay_congr h' h (by rw [hinstants]) ?_
  rw [hcomparable, hcomparable, hzones]

/-- **The delay is the greatest distance between two of the times**, in whole seconds, and 0 if there is
no time. So it depends neither on the order of the times nor on the zones in which they are told, and
more times make it no shorter. In all of these lists a zone stays at one distance to UTC. -/
theorem delay_is_greatest_distance (h : IsExact z times) :
    ∃ n : Nat, delay z times = .ok n ∧ (times = [] → n = 0) ∧
      (times ≠ [] → IsGreatest {s | ∃ a ∈ times, ∃ b ∈ times, s = secondsBetween z a b} (n : Int)) ∧
      (∀ times', times.Perm times' → delay z times' = .ok n) ∧
      (∀ times', List.Forall₂ (SameMoment z) times times' → IsSteady z times' →
        delay z times' = .ok n) ∧
      ∀ times', times ⊆ times' → comparable times' = true → IsSteady z times' →
        ∃ m, delay z times' = .ok m ∧ n ≤ m := by
  have hdelay : delay z times = .ok (span (times.map (Reading.instant z))) := by
    rw [delay_eq_span h.steady, if_pos h.comparable]
  refine ⟨span (times.map (Reading.instant z)), hdelay, fun hnil => ?_, fun hne => ?_,
    fun times' hperm => ?_, fun times' hmoments hsteady => ?_, fun times' hsub hc hsteady => ?_⟩
  · rw [hnil]
    exact span_nil
  -- the ends of the instants are the two times that are farthest apart
  · obtain ⟨first, last, hends⟩ := exists_ends (List.map_eq_nil_iff.not.mpr hne)
    rw [hends.span_eq, hends.wholeSeconds_eq h]
    exact hends.isGreatest
  · rw [← delay_perm h.steady hperm]
    exact hdelay
  · rw [delay_of_sameMoments h.steady hsteady hmoments]
    exact hdelay
  · obtain ⟨m, hm⟩ := exists_delay hsteady hc
    exact ⟨m, hm, delay_mono hsteady hsub hdelay hm⟩

namespace Sample

/-- Three hops of a mail in three zones, the last one a microsecond before the sixtieth second. -/
def hops : List (Reading Int) := List.map readingOf
  [{ year := 2006, month := 1, day := 2, hour := 15, minute := 4, second := 5, offset := some (-25200) },
   { year := 2006, month := 1, day := 2, hour := 23, minute := 5, second := 4, microsecond := 999999,
     offset := some 3600 },
   { year := 2006, month := 1, day := 2, hour := 22, minute := 4, second := 30, offset := some 0 }]

/-- The same hops, all told in UTC. -/
def hopsInUtc : List (Reading Int) := List.map readingOf
  [{ year := 2006, month := 1, day := 2, hour := 22, minute := 4, second := 5, offset := some 0 },
   { year := 2006, month := 1, day := 2, hour := 22, minute := 5, second := 4, microsecond := 999999,
     offset := some 0 },
   { year := 2006, month := 1, day := 2, hour := 22, minute := 4, second := 30, offset := some 0 }]

theorem isExact_hops : IsExact fixedZones hops :=
  ⟨.inl (by decide), isSteady_fixedZones hops, .inl (by decide)⟩

end Sample

open Sample in
/-- The fraction of the last second is dropped, in whatever zone the hops are told. -/
theorem delay_is_greatest_distance_across_zones :
    ∃ n : Nat, n = 59 ∧ delay fixedZones hops = .ok n ∧ delay fixedZones hopsInUtc = .ok n := by
  obtain ⟨n, hn, -, hgreatest, -, hzones, -⟩ := delay_is_greatest_distance isExact_hops
  obtain ⟨⟨a, ha, b, hb, hab⟩, hupper⟩ := hgreatest (by decide)
  have hle : (59 : Int) ≤ n := hupper ⟨hops[1], by decide, hops[0], by decide, by decide⟩
  have hge : ∀ a ∈ hops, ∀ b ∈ hops, secondsBetween fixedZones a b ≤ 59 := by decide
  have hbound := hge a ha b hb
  refine ⟨n, by omega, hn, hzones hopsInUtc ?_ (isSteady_fixedZones _)⟩
  exact .cons ⟨by decide, by decide⟩ (.cons ⟨by decide, by decide⟩ (.cons ⟨by decide, by decide⟩ .nil))

/-! ### Times of one zone -/

/-- **Times of one zone are taken by what their clocks show**, whatever the zone is. -/
theorem delay_of_one_zone (h : ∀ a ∈ times, ∀ b ∈ times, a.zone = b.zone) (z : Zones ι) :
    delay z times = .ok (span (times.map Reading.wall)) := by
  have hsince : ∀ a ∈ times, ∀ b ∈ times, a.since z b = a.wall - b.wall :=
    fun a ha b hb => if_pos (h a ha b hb)
  have hcomparable : comparable times = true := by
    cases times with
    | nil => rfl
    | cons t rest =>
      have hzoned : ∀ u ∈ t :: rest, u.isZoned = t.isZoned := fun u hu =>
        congrArg Option.isSome (h u hu t List.mem_cons_self)
      rw [comparable, Bool.or_eq_true, List.all_eq_true, List.all_eq_true]
      cases ht : t.isZoned with
      | true => exact .inl fun u hu => (hzoned u hu).trans ht
      | false => exact .inr fun u hu => by rw [hzoned u hu, ht]; rfl
  rw [delay_eq_span_of_since hsince, if_pos hcomparable]

namespace Sample

/-- A zone whose clocks were put forward by an hour at two o'clock on 31 March 2024. -/
def springZone : Zones Unit := fun _ wall _ =>
  if wall < (readingOf { year := 2024, month := 3, day := 31, hour := 3, minute := 0, second := 0 }).wall
  then 3600000000 else 7200000000

/-- An hour of that night, as the clocks showed it. -/
def springNight (hour : Nat) : Reading Unit where
  wall := (readingOf { year := 2024, month := 3, day := 31, hour := hour, minute := 0, second := 0 }).wall
  zone := some ()

/-- Zones that are named by their distance to UTC in microseconds. -/
def fineZones : Zones Int := fun ahead _ _ => ahead

/-- The first second of all, in UTC. -/
def firstOfAll : Reading Int where
  wall := (readingOf { year := 1, month := 1, day := 1, hour := 0, minute := 0, second := 0 }).wall
  zone := some 0

/-- The last second of all, in a zone a microsecond east of UTC. -/
def lastOfAll : Reading Int where
  wall := (readingOf
    { year := 9999, month := 12, day := 31, hour := 23, minute := 59, second := 59 }).wall
  zone := some 1

end Sample

open Sample in
/-- **From one o'clock to four two hours have passed in that night, and the delay is three.** And where
the clocks show whole seconds, but a zone is a microsecond off, the delay of all times that there are is a
second too long. -/
theorem delay_ne_greatest_distance :
    ((∀ t ∈ [springNight 1, springNight 4], t.isZoned = true) ∧
      delay springZone [springNight 1, springNight 4] = .ok 10800 ∧
      IsGreatest {s | ∃ a ∈ [springNight 1, springNight 4], ∃ b ∈ [springNight 1, springNight 4],
        s = secondsBetween springZone a b} 7200) ∧
    (∀ t ∈ [firstOfAll, lastOfAll], t.isZoned = true ∧ t.wall % 1000000 = 0) ∧
      delay fineZones [firstOfAll, lastOfAll] = .ok 315537897599 ∧
      IsGreatest {s | ∃ a ∈ [firstOfAll, lastOfAll], ∃ b ∈ [firstOfAll, lastOfAll],
        s = secondsBetween fineZones a b} 315537897598 := by
  refine ⟨⟨by decide, ?_, ⟨springNight 4, by decide, springNight 1, by decide, by decide⟩, ?_⟩, by decide,
    ?_, ⟨lastOfAll, by decide, firstOfAll, by decide, by decide⟩, ?_⟩
  · have hends : Ends ([springNight 1, springNight 4].map Reading.wall) (springNight 1).wall
        (springNight 4).wall := ⟨by decide, by decide, by decide, by decide⟩
    rw [delay_of_one_zone (by decide), hends.span_eq]
    decide +kernel
  · have hall : ∀ a ∈ [springNight 1, springNight 4], ∀ b ∈ [springNight 1, springNight 4],
        secondsBetween springZone a b ≤ 7200 := by decide
    rintro _ ⟨a, ha, b, hb, rfl⟩
    exact hall a ha b hb
  · -- the zones stand still here: what is wrong is the rounding of so many seconds
    have hends : Ends ([firstOfAll, lastOfAll].map (Reading.instant fineZones))
        (firstOfAll.instant fineZones) (lastOfAll.instant fineZones) :=
      ⟨by decide, by decide, by decide, by decide⟩
    have hsteady : IsSteady fineZones [firstOfAll, lastOfAll] := isSteady_of_fixed id _
    rw [delay_eq_span hsteady, if_pos (by decide), hends.span_eq]
    decide +kernel
  · have hall : ∀ a ∈ [firstOfAll, lastOfAll], ∀ b ∈ [firstOfAll, lastOfAll],
        secondsBetween fineZones a b ≤ 315537897598 := by decide
    rintro _ ⟨a, ha, b, hb, rfl⟩
    exact hall a ha b hb

end DeliveryWatch.Trace
