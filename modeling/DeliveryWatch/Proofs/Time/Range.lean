/-
The range of the times that mail dates give.

* `Time.InRange` — a date of the years 1 to 9999, a time of day, and a zone of less than a day;
* `MailDate.IsTime` — the ranges of the numbers of a written date; `time?_eq_ok` — a date in these ranges
  is a point in time, and no other is;
* `MailDate.inRange_of_time?` — such a point in time is in the range of times;
* `InRange.instant_le`, `InRange.neg_lt_instant`, `InRange.le_instant` — bounds of its instant.
-/
import DeliveryWatch.Proofs.Outcome
import DeliveryWatch.Time.MailDate
import Mathlib.Data.List.Basic

namespace DeliveryWatch

open Outcome

/-! ### Days -/

namespace Calendar

theorem daysInMonth_le (y m : Nat) : daysInMonth y m ≤ 31 := by
  rw [daysInMonth]
  repeat' split
  all_goals omega

theorem daysBeforeMonth_le (y m : Nat) : daysBeforeMonth y m ≤ 31 * (m - 1) := by
  rw [daysBeforeMonth]
  induction m - 1 with
  | zero => simp
  | succ k ih =>
    rw [List.range_succ, List.foldl_append]
    have := daysInMonth_le y (k + 1)
    simp only [List.foldl_cons, List.foldl_nil]
    omega

theorem dayNumber_le {y m d : Nat} (hy : y ≤ maxYear) (hm : m ≤ 12) (hd : d ≤ 31) :
    dayNumber y m d ≤ 3652530 := by
  have hmonth := daysBeforeMonth_le y m
  have hyear : daysBeforeYear y ≤ 365 * 9999 + 9999 / 4 + 9999 / 400 := by
    rw [maxYear] at hy
    unfold daysBeforeYear
    simp only
    omega
  rw [dayNumber]
  omega

theorem le_dayNumber {y d : Nat} (hy : 100 ≤ y) (m : Nat) (hd : 1 ≤ d) :
    36160 ≤ dayNumber y m d := by
  have hyear : 36159 ≤ daysBeforeYear y := by
    unfold daysBeforeYear
    simp only
    generalize hp : y - 1 = p
    -- of the 25 leap days of a century one is left out, and there are 24 before the year 100
    have hleap : 24 ≤ p / 4 - p / 100 := by
      have hcentury : 25 * (p / 100) ≤ p / 4 := by omega
      rcases Nat.eq_zero_or_pos (p / 100) with hzero | hpos
      · omega
      · omega
    omega
  rw [dayNumber]
  omega

end Calendar

/-! ### Times in range -/

/-- A date of the years 1 to 9999, a time of day in whole seconds, and a zone of less than a day. -/
structure Time.InRange (t : Time) : Prop where
  year_pos : Calendar.minYear ≤ t.year
  year_le : t.year ≤ Calendar.maxYear
  month_pos : 1 ≤ t.month
  month_le : t.month ≤ 12
  day_pos : 1 ≤ t.day
  day_le : t.day ≤ Calendar.daysInMonth t.year t.month
  hour_le : t.hour ≤ 23
  minute_le : t.minute ≤ 59
  second_le : t.second ≤ 59
  microsecond_eq : t.microsecond = 0
  offset_lt : (t.offset.getD 0).natAbs < 86400

namespace Time.InRange

variable {t : Time}

theorem orUtc (h : t.InRange) : t.orUtc.InRange :=
  { h with offset_lt := h.offset_lt }

theorem wallSeconds_lt (h : t.InRange) : t.wallSeconds < 315578678400 := by
  have hday : t.day ≤ 31 := Nat.le_trans h.day_le (Calendar.daysInMonth_le _ _)
  have hn := Calendar.dayNumber_le h.year_le h.month_le hday
  have hh := h.hour_le
  have hm := h.minute_le
  have hs := h.second_le
  rw [wallSeconds]
  omega

/-- The instant is below `2 ^ 62` microseconds. -/
theorem instant_le (h : t.InRange) : t.instant ≤ 315578764798000000 := by
  have hw := h.wallSeconds_lt
  have hm := h.microsecond_eq
  have ho := h.offset_lt
  rw [instant]
  omega

theorem neg_lt_instant (h : t.InRange) : -400000000000000000 < t.instant := by
  have hm := h.microsecond_eq
  have ho := h.offset_lt
  rw [instant]
  omega

/-- From the year 100 on, it is more than 36158 days behind the beginning of the axis. -/
theorem le_instant (h : t.InRange) (hyear : 100 ≤ t.year) : 3124137601000000 ≤ t.instant := by
  have hn := Calendar.le_dayNumber hyear t.month h.day_pos
  have hm := h.microsecond_eq
  have ho := h.offset_lt
  rw [instant, wallSeconds]
  omega

end Time.InRange

/-! ### Mail dates -/

namespace MailDate

theorem monthNumber?_range {w : List Char} {m : Nat} (h : monthNumber? w = some m) :
    1 ≤ m ∧ m ≤ 12 := by
  obtain ⟨i, -, rfl⟩ := Option.map_eq_some_iff.mp h
  omega

theorem arrange?_range {ws : List (List Char)} {p : Parts} {m : Nat}
    (h : arrange? ws = some (p, m)) : 1 ≤ m ∧ m ≤ 12 := by
  simp only [arrange?] at h
  split at h
  · rename_i dd mm yy tm tz rest
    simp only [Option.bind_eq_bind] at h
    split at h
    · cases h
    -- day and month may have changed places
    · cases hmm : monthNumber? (Text.lower mm) with
      | some k =>
        simp only [hmm, Option.bind_some, Option.bind_eq_some_iff] at h
        obtain ⟨y, -, h⟩ := h
        cases h
        exact monthNumber?_range hmm
      | none =>
        simp only [hmm, Option.bind_eq_some_iff, Option.map_eq_some_iff] at h
        obtain ⟨_, ⟨k, hk, rfl⟩, y, -, h⟩ := h
        cases h
        exact monthNumber?_range hk
  · cases h

theorem read?_month {s : List Char} {d : MailDate} (h : read? s = some d) :
    1 ≤ d.month ∧ d.month ≤ 12 := by
  simp only [read?, Option.bind_eq_bind, Option.bind_eq_some_iff] at h
  obtain ⟨⟨p, m⟩, hp, c, -, y, -, dy, -, hr, -, mi, -, se, -, h⟩ := h
  cases h
  exact arrange?_range hp

/-- The date and the time of day are in their ranges. -/
structure IsDate (d : MailDate) : Prop where
  year : 1 ≤ d.year ∧ d.year ≤ 9999
  day : 1 ≤ d.day ∧ d.day ≤ Calendar.daysInMonth d.year.toNat d.month
  hour : 0 ≤ d.hour ∧ d.hour < 24
  minute : 0 ≤ d.minute ∧ d.minute < 60
  second : 0 ≤ d.second ∧ d.second < 60

/-- All numbers of a written date are in their ranges. -/
structure IsTime (d : MailDate) : Prop extends d.IsDate where
  zone : ∀ z ∈ d.zone, z.natAbs < 86400

/-- The point in time with the numbers of a written date. -/
def shown (d : MailDate) : Time where
  year := d.year.toNat
  month := d.month
  day := d.day.toNat
  hour := d.hour.toNat
  minute := d.minute.toNat
  second := d.second.toNat
  offset := d.zone

/-- A zone of less than a day is a duration all the more. -/
theorem checkZone_eq_ok {z : Int} : checkZone z = .ok () ↔ z.natAbs < 86400 := by
  have hdays : z.fdiv 86400 = z / 86400 := Int.fdiv_eq_ediv_of_nonneg z (by decide)
  simp only [checkZone, hdays, DateFault.maxDurationDays]
  constructor
  · intro h
    split at h
    · cases h
    · split at h
      · cases h
      · omega
  · intro h
    rw [if_neg (by omega), if_neg (by omega)]

theorem exceedsWord_eq_false {v : Int} :
    DateFault.exceedsWord 32 v = false ↔ -2147483648 ≤ v ∧ v < 2147483648 := by
  have hlimit : ((Nat.pow 2 (32 - 1) : Nat) : Int) = 2147483648 := rfl
  simp only [DateFault.exceedsWord, hlimit, Bool.or_eq_false_iff, decide_eq_false_iff_not]
  omega

theorem checkWords_eq_ok {vs : List Int} :
    checkWords vs = .ok () ↔ ∀ v ∈ vs, -2147483648 ≤ v ∧ v < 2147483648 := by
  induction vs with
  | nil => simp [checkWords]
  | cons v vs ih =>
    rw [checkWords, List.forall_mem_cons, ← ih, ← exceedsWord_eq_false]
    cases DateFault.exceedsWord 32 v with
    | false => simp
    | true => simp

/-- What is checked behind the zone. -/
theorem isDate_iff {d : MailDate} : d.IsDate
    ↔ checkWords [d.year, d.day, d.hour, d.minute, d.second] = .ok ()
      ∧ ¬(d.year < Calendar.minYear ∨ Calendar.maxYear < d.year)
      ∧ ¬(d.day < 1 ∨ (Calendar.daysInMonth d.year.toNat d.month : Int) < d.day)
      ∧ ¬(d.hour < 0 ∨ 23 < d.hour) ∧ ¬(d.minute < 0 ∨ 59 < d.minute)
      ∧ ¬(d.second < 0 ∨ 59 < d.second) := by
  have hmin : (Calendar.minYear : Int) = 1 := rfl
  have hmax : (Calendar.maxYear : Int) = 9999 := rfl
  rw [hmin, hmax]
  constructor
  · rintro ⟨hyear, hday, hhour, hminute, hsecond⟩
    have hmonth := Calendar.daysInMonth_le d.year.toNat d.month
    -- a number in its range fits a machine word
    have hwords : checkWords [d.year, d.day, d.hour, d.minute, d.second] = .ok () := by
      rw [checkWords_eq_ok]
      simp only [List.forall_mem_cons, List.not_mem_nil, false_implies, implies_true, and_true]
      omega
    exact ⟨hwords, by omega, by omega, by omega, by omega, by omega⟩
  · rintro ⟨-, hyear, hday, hhour, hminute, hsecond⟩
    exact ⟨by omega, by omega, by omega, by omega, by omega⟩

/-- **A written date is a point in time if its numbers are in their ranges**, and only then. -/
theorem time?_eq_ok {d : MailDate} {t : Time} : d.time? = .ok t ↔ d.IsTime ∧ t = d.shown := by
  rw [time?]
  -- a zone is checked before everything else, if there is one
  cases hz : d.zone with
  | none =>
    simp only [bind_eq_ok, guard_eq_ok]
    constructor
    · rintro ⟨⟨⟩, hwords, hyear, hday, hhour, hminute, hsecond, h⟩
      have hdate := isDate_iff.mpr ⟨hwords, hyear, hday, hhour, hminute, hsecond⟩
      cases h
      exact ⟨⟨hdate, by rw [hz]; intro z h; cases h⟩, by rw [shown, hz]⟩
    · rintro ⟨h, rfl⟩
      obtain ⟨hwords, hyear, hday, hhour, hminute, hsecond⟩ := isDate_iff.mp h.toIsDate
      exact ⟨(), hwords, hyear, hday, hhour, hminute, hsecond, by rw [shown, hz]; rfl⟩
  | some z =>
    simp only [bind_eq_ok, guard_eq_ok]
    constructor
    · rintro ⟨⟨⟩, hzone, ⟨⟩, hwords, hyear, hday, hhour, hminute, hsecond, h⟩
      have hdate := isDate_iff.mpr ⟨hwords, hyear, hday, hhour, hminute, hsecond⟩
      cases h
      refine ⟨⟨hdate, fun y hy => ?_⟩, by rw [shown, hz]⟩
      rw [hz] at hy
      cases hy
      exact checkZone_eq_ok.mp hzone
    · rintro ⟨h, rfl⟩
      obtain ⟨hwords, hyear, hday, hhour, hminute, hsecond⟩ := isDate_iff.mp h.toIsDate
      have hzone := checkZone_eq_ok.mpr (h.zone z hz)
      exact ⟨(), hzone, (), hwords, hyear, hday, hhour, hminute, hsecond, by rw [shown, hz]; rfl⟩

theorem natAbs_getD_lt {z : Option Int} {n : Nat} (hn : 0 < n) :
    (z.getD 0).natAbs < n ↔ ∀ y ∈ z, y.natAbs < n := by
  cases z with
  | none => simp [hn]
  | some y => simp

theorem inRange_of_time? {d : MailDate} {t : Time} (hmonth : 1 ≤ d.month ∧ d.month ≤ 12)
    (h : d.time? = .ok t) : t.InRange := by
  obtain ⟨⟨⟨hyear, hday, hhour, hminute, hsecond⟩, hzone⟩, rfl⟩ := time?_eq_ok.mp h
  refine ⟨?_, ?_, hmonth.1, hmonth.2, ?_, ?_, ?_, ?_, ?_, rfl, ?_⟩
  · show 1 ≤ d.year.toNat
    omega
  · show d.year.toNat ≤ 9999
    omega
  · show 1 ≤ d.day.toNat
    omega
  · show d.day.toNat ≤ Calendar.daysInMonth d.year.toNat d.month
    omega
  · show d.hour.toNat ≤ 23
    omega
  · show d.minute.toNat ≤ 59
    omega
  · show d.second.toNat ≤ 59
    omega
  · show (d.zone.getD 0).natAbs < 86400
    exact (natAbs_getD_lt (by decide)).mpr hzone

theorem inRange_of_timeOf {s : String} {t : Time} (h : timeOf s = .ok t) : t.InRange := by
  rw [timeOf] at h
  split at h
  · rename_i d hd
    exact inRange_of_time? (read?_month hd) h
  · cases h

end MailDate

end DeliveryWatch
