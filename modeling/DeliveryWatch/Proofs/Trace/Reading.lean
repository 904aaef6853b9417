/-
The time of a trace field that holds a stamp.

* `Stamp.Denotes` — the time that a stamp denotes, if its parts are a month, a date and a time of day;
* `timeOf_text` — the mail date that the text of a stamp is;
* `readTime_stamp` — the time of a field is the one that its last stamp denotes, whatever stands around
  it and however it is folded; a field whose last stamp denotes none is refused.
-/
import DeliveryWatch.Proofs.Time.MailDate
import DeliveryWatch.Proofs.Trace.Stamp

namespace DeliveryWatch.Trace

open Text Message

/-! ### Visible characters -/

/-- A visible character of ASCII. -/
def IsVisible (c : Char) : Prop := 33 ≤ c.toNat ∧ c.toNat < 127

instance (c : Char) : Decidable (IsVisible c) :=
  inferInstanceAs (Decidable (33 ≤ c.toNat ∧ c.toNat < 127))

theorem IsVisible.isInk {c : Char} (h : IsVisible c) : isInk c = true := by
  have hne : ∀ d : Char, d.toNat < 33 → (c == d) = false := by
    intro d hd
    rw [beq_eq_false_iff_ne]
    rintro rfl
    exact absurd h.1 (by omega)
  rw [Message.isInk, isSpaceOrTab, isLineEnd, hne ' ' (by decide), hne '\t' (by decide),
    hne '\r' (by decide), hne '\n' (by decide)]
  rfl

theorem IsVisible.not_isBlank {c : Char} (h : IsVisible c) : isBlank c = false := by
  obtain ⟨hge, hlt⟩ := h
  simp only [isBlank, Bool.or_eq_false_iff, Bool.and_eq_false_iff, decide_eq_false_iff_not,
    beq_eq_false_iff_ne]
  omega

theorem isVisible_of_isDigit {c : Char} (h : isDigit c = true) : IsVisible c := by
  obtain ⟨hge, hle⟩ := toNat_of_isDigit h
  exact ⟨by omega, by omega⟩

theorem isVisible_of_isWordLetter {c : Char} (h : isWordLetter c = true) : IsVisible c := by
  obtain ⟨hge, hle⟩ := toNat_of_isWordLetter h
  exact ⟨by omega, by omega⟩

namespace Stamp

/-! ### What a stamp denotes -/

/-- No number of the stamp has more digits than a number may have. -/
structure IsShort (d : Stamp) : Prop where
  day : d.day.length ≤ maxDigits
  year : d.year.length ≤ maxDigits
  hour : d.hour.length ≤ maxDigits
  minute : d.minute.length ≤ maxDigits
  second : d.second.length ≤ maxDigits
  zone : d.zone.length ≤ maxDigits

instance (d : Stamp) : Decidable d.IsShort :=
  decidable_of_iff
    (d.day.length ≤ maxDigits ∧ d.year.length ≤ maxDigits ∧ d.hour.length ≤ maxDigits
      ∧ d.minute.length ≤ maxDigits ∧ d.second.length ≤ maxDigits ∧ d.zone.length ≤ maxDigits)
    ⟨fun ⟨hd, hy, hh, hm, hs, hz⟩ => ⟨hd, hy, hh, hm, hs, hz⟩,
      fun ⟨hd, hy, hh, hm, hs, hz⟩ => ⟨hd, hy, hh, hm, hs, hz⟩⟩

/-- The year that is meant: two digits stand for the years 1969 to 2068. -/
def meantYear (n : Nat) : Nat := if n ≤ 68 then n + 2000 else if n ≤ 99 then n + 1900 else n

/-- The zone in seconds: hours and minutes in one number, behind the sign. -/
def offset (d : Stamp) : Int :=
  let n := decimalValue d.zone
  (if d.sign = ['-'] then -1 else 1) * (((n / 100) * 3600 + (n % 100) * 60 : Nat) : Int)

/-- The time with the numbers of the stamp, in this month. -/
def time (d : Stamp) (month : Nat) : Time where
  year := meantYear (decimalValue d.year)
  month := month
  day := decimalValue d.day
  hour := decimalValue d.hour
  minute := decimalValue d.minute
  second := decimalValue d.second
  offset := some d.offset

/-- The stamp denotes the time: its month has this name, its numbers are those of the time, and the time
is in range. -/
structure Denotes (d : Stamp) (t : Time) : Prop where
  month : MailDate.IsMonthName d.month t.month
  numbers : t = d.time t.month
  range : t.InRange

/-! ### The words of a stamp -/

namespace IsFormed

variable {d : Stamp} (h : d.IsFormed)

include h

theorem ne_nil_of_mem_words : ∀ w ∈ d.words, w ≠ [] := by
  have hclock : d.clock ≠ [] := by simp [clock]
  have hzone : d.sign ++ d.zone ≠ [] := by simp [h.zone.ne]
  simp [words, h.day.ne, h.month.ne, h.year.ne, hclock, hzone]

theorem isVisible_of_mem_words : ∀ w ∈ d.words, ∀ c ∈ w, IsVisible c := by
  have hdigits : ∀ {v : List Char}, IsRun isDigit v → ∀ c ∈ v, IsVisible c := fun hv c hc =>
    isVisible_of_isDigit (hv.chars c hc)
  have hweekday : ∀ c ∈ d.weekday ++ [','], IsVisible c := by
    intro c hc
    rcases List.mem_append.mp hc with hc | hc
    · exact isVisible_of_isWordLetter (h.weekday c hc)
    · rw [List.mem_singleton.mp hc]
      decide
  have hclock : ∀ c ∈ d.clock, IsVisible c := by
    intro c hc
    simp only [clock, List.mem_append, List.mem_cons] at hc
    rcases hc with hc | rfl | hc | rfl | hc
    · exact hdigits h.hour c hc
    · decide
    · exact hdigits h.minute c hc
    · decide
    · exact hdigits h.second c hc
  have hzone : ∀ c ∈ d.sign ++ d.zone, IsVisible c := by
    intro c hc
    rcases List.mem_append.mp hc with hc | hc
    · rcases h.sign.eq_of_mem hc with rfl | rfl
      · decide
      · decide
    · exact hdigits h.zone c hc
  intro w hw
  simp only [words, List.mem_cons, List.not_mem_nil, or_false] at hw
  rcases hw with rfl | rfl | rfl | rfl | rfl | rfl
  · exact hweekday
  · exact hdigits h.day
  · exact fun c hc => isVisible_of_isWordLetter (h.month.chars c hc)
  · exact hdigits h.year
  · exact hclock
  · exact hzone

/-- The words of a stamp are parted again. -/
theorem words_text : Text.words d.text = d.words :=
  words_intercalate h.ne_nil_of_mem_words fun w hw c hc =>
    (h.isVisible_of_mem_words w hw c hc).not_isBlank

/-- A stamp is unfolded to its text, whatever stands around it. -/
theorem unfold_append {s : List Char} (hs : Spaced d.words s) (p q : List Char) :
    unfold (p ++ (s ++ q)) = unfold p ++ (d.text ++ unfold q) :=
  hs.unfold_append (fun w hw =>
    ⟨h.ne_nil_of_mem_words w hw, fun c hc => (h.isVisible_of_mem_words w hw c hc).isInk⟩) p q

end IsFormed

/-! ### The mail date of a stamp -/

theorem isNumeral_of_isRun {w : List Char} (h : IsRun isDigit w) (hle : w.length ≤ maxDigits) :
    IsNumeral w := ⟨h.ne, h.chars, hle⟩

/-- The numbers of a stamp as a mail date, in this month. -/
def date (d : Stamp) (month : Nat) : MailDate where
  year := MailDate.fullYear (decimalValue d.year)
  month := month
  day := decimalValue d.day
  hour := decimalValue d.hour
  minute := decimalValue d.minute
  second := decimalValue d.second
  zone := MailDate.zone? (d.sign ++ d.zone)

/-- The text of a stamp is read as its numbers, if its month is one. -/
theorem read?_text {d : Stamp} (hd : d.IsFormed) (hshort : d.IsShort) :
    MailDate.read? d.text = (MailDate.monthNumber? (lower d.month)).map d.date :=
  MailDate.read?_words hd.words_text (isNumeral_of_isRun hd.day hshort.day) hd.month.ne
    (isNumeral_of_isRun hd.year hshort.year) (isNumeral_of_isRun hd.hour hshort.hour)
    (isNumeral_of_isRun hd.minute hshort.minute) (isNumeral_of_isRun hd.second hshort.second)

theorem fullYear_natCast (n : Nat) : MailDate.fullYear n = meantYear n := by
  rw [MailDate.fullYear, meantYear]
  repeat' split
  all_goals omega

theorem zoneSeconds_signed (d : Stamp) :
    MailDate.zoneSeconds (signed d.sign d.zone) = d.offset := by
  rw [signed, offset]
  split
  · rw [MailDate.zoneSeconds_neg, MailDate.zoneSeconds_natCast, Int.neg_one_mul]
  · rw [MailDate.zoneSeconds_natCast, Int.one_mul]

/-- A zone that is not known is taken as UTC, which is what its zero says. -/
theorem getD_zone {d : Stamp} (hd : d.IsFormed) (hshort : d.IsShort) :
    (MailDate.zone? (d.sign ++ d.zone)).getD 0 = d.offset := by
  rw [MailDate.zone?_signed hd.sign (isNumeral_of_isRun hd.zone hshort.zone), ← zoneSeconds_signed]
  split
  · rename_i hz
    rw [hz.1]
    rfl
  · rfl

theorem shown_date {d : Stamp} (hd : d.IsFormed) (hshort : d.IsShort) (m : Nat) :
    (d.date m).shown.orUtc = d.time m := by
  simp only [MailDate.shown, Time.orUtc, date, time, getD_zone hd hshort, fullYear_natCast,
    Int.toNat_natCast]

theorem isTime_date {d : Stamp} (hd : d.IsFormed) (hshort : d.IsShort) {m : Nat}
    (hm : 1 ≤ m ∧ m ≤ 12) : (d.date m).IsTime ↔ (d.time m).InRange := by
  have hyear : (d.date m).year = meantYear (decimalValue d.year) := fullYear_natCast _
  constructor
  · intro h
    have hrange := MailDate.inRange_of_time? hm (MailDate.time?_eq_ok.mpr ⟨h, rfl⟩)
    rw [← shown_date hd hshort]
    exact hrange.orUtc
  · intro h
    have hlt : ∀ {a b : Nat}, a ≤ b → (0 : Int) ≤ a ∧ (a : Int) < (b + 1 : Nat) := fun hab =>
      ⟨Int.natCast_nonneg _, Int.ofNat_lt.mpr (Nat.lt_succ_of_le hab)⟩
    refine ⟨⟨?_, ?_, hlt h.hour_le, hlt h.minute_le, hlt h.second_le⟩, ?_⟩
    · rw [hyear]
      exact ⟨Int.ofNat_le.mpr h.year_pos, Int.ofNat_le.mpr h.year_le⟩
    · rw [hyear, Int.toNat_natCast]
      exact ⟨Int.ofNat_le.mpr h.day_pos, Int.ofNat_le.mpr h.day_le⟩
    · refine (MailDate.natAbs_getD_lt (by decide)).mp ?_
      show ((MailDate.zone? (d.sign ++ d.zone)).getD 0).natAbs < 86400
      rw [getD_zone hd hshort]
      exact h.offset_lt

theorem monthNumber?_month {d : Stamp} (hd : d.IsFormed) {m : Nat} :
    MailDate.monthNumber? (lower d.month) = some m ↔ MailDate.IsMonthName d.month m := by
  refine MailDate.monthNumber?_lower fun c hc => ?_
  have := (toNat_of_isWordLetter (hd.month.chars c hc)).2
  omega

/-- The text of a stamp is a mail date if its month is one and its time is in range. -/
theorem timeOf_text {d : Stamp} (hd : d.IsFormed) (hshort : d.IsShort) {u : Time} :
    MailDate.timeOf (String.ofList d.text) = .ok u
      ↔ ∃ m, MailDate.IsMonthName d.month m ∧ (d.time m).InRange ∧ u = (d.date m).shown := by
  rw [MailDate.timeOf, String.toList_ofList, read?_text hd hshort]
  constructor
  · intro h
    -- without a month of that name there is no time
    cases hm : MailDate.monthNumber? (lower d.month) with
    | none =>
      rw [hm] at h
      cases h
    | some m =>
      rw [hm] at h
      obtain ⟨htime, rfl⟩ := MailDate.time?_eq_ok.mp h
      have hrange := (isTime_date hd hshort (MailDate.monthNumber?_range hm)).mp htime
      exact ⟨m, (monthNumber?_month hd).mp hm, hrange, rfl⟩
  · rintro ⟨m, hname, hrange, rfl⟩
    have hm := (monthNumber?_month hd).mpr hname
    have htime := (isTime_date hd hshort (MailDate.monthNumber?_range hm)).mpr hrange
    rw [hm]
    exact MailDate.time?_eq_ok.mpr ⟨htime, rfl⟩

/-- A stamp denotes the time of its mail date, in UTC if the zone is not known. -/
theorem denotes_iff {d : Stamp} (hd : d.IsFormed) (hshort : d.IsShort) {t : Time} :
    d.Denotes t ↔ ∃ u, MailDate.timeOf (String.ofList d.text) = .ok u ∧ t = u.orUtc := by
  constructor
  · rintro ⟨hname, hnumbers, hrange⟩
    rw [hnumbers] at hrange
    refine ⟨_, (timeOf_text hd hshort).mpr ⟨t.month, hname, hrange, rfl⟩, ?_⟩
    rw [shown_date hd hshort]
    exact hnumbers
  · rintro ⟨u, hu, rfl⟩
    obtain ⟨m, hname, hrange, rfl⟩ := (timeOf_text hd hshort).mp hu
    rw [shown_date hd hshort]
    exact ⟨hname, rfl, hrange⟩

end Stamp

open Stamp

theorem stops_unfold {q : List Char} (h : Stops isDigit q) : Stops isDigit (unfold q) := by
  cases q with
  | nil =>
    rw [unfold_nil]
    exact h
  | cons c r =>
    cases hfold : afterFold? (c :: r) with
    | none =>
      rw [unfold_of_not_fold hfold]
      exact .of_head (h c rfl) _
    | some rest =>
      rw [unfold_of_fold hfold]
      exact .of_head (by decide) _

/-- **The time of a trace field is the one that its last stamp denotes**, whatever stands around it and
however it is folded; if the stamp denotes none, the field is refused, with its value as it was given. -/
theorem readTime_stamp {d : Stamp} (hd : d.IsFormed) (hshort : d.IsShort) {s : List Char}
    (hs : Spaced d.words s) (p : List Char) {q : List Char} (hdigit : Stops isDigit q)
    (hq : IsStampless (unfold q)) :
    let value := String.ofList (p ++ (s ++ q))
    (∀ t, readTime value = .ok t ↔ d.Denotes t)
      ∧ ((∀ t, ¬ d.Denotes t) →
        ∃ why, readTime value = .error ⟨value, .badStamp (String.ofList d.text) why⟩) := by
  intro value
  -- the search finds the stamp, and what is left is the mail date of its text
  have hstamp : lastStamp? (unfold value.toList) = some d.text := by
    rw [String.toList_ofList, hd.unfold_append hs]
    exact lastStamp?_append hd _ (stops_unfold hdigit) hq
  cases hu : MailDate.timeOf (String.ofList d.text) with
  | ok u =>
    have hread : readTime value = .ok u.orUtc := by simp only [readTime, hstamp, hu]
    have hdenotes := (denotes_iff hd hshort).mpr ⟨u, hu, rfl⟩
    refine ⟨fun t => ?_, fun hnone => absurd hdenotes (hnone u.orUtc)⟩
    rw [hread, denotes_iff hd hshort]
    constructor
    · intro h
      cases h
      exact ⟨u, hu, rfl⟩
    · rintro ⟨u', hu', rfl⟩
      rw [hu] at hu'
      cases hu'
      rfl
  | error why =>
    have hread : readTime value = .error ⟨value, .badStamp (String.ofList d.text) why⟩ := by
      simp only [readTime, hstamp, hu]
    refine ⟨fun t => ?_, fun _ => ⟨why, hread⟩⟩
    rw [hread, denotes_iff hd hshort]
    constructor
    · intro h
      cases h
    · rintro ⟨u, hu', -⟩
      rw [hu] at hu'
      cases hu'

/-- A field with an older date in it, a stamp that is folded, and the name of its zone behind it; and a
field whose stamp is no date. -/
theorem readTime_stamp_folded :
    readTime "from a (helo Sun, 1 Jan 06 00:00:00 +0000); Mon, 2\r\n\tJan 06 15:04:05 -0700 (PDT)"
        = .ok { year := 2006, month := 1, day := 2, hour := 15, minute := 4, second := 5,
                offset := some (-25200) }
      ∧ ∃ why, readTime "Mon, 32 Jan 06 15:04:05 -0700"
        = .error ⟨"Mon, 32 Jan 06 15:04:05 -0700", .badStamp "Mon, 32 Jan 06 15:04:05 -0700" why⟩ := by
  constructor
  · have hs : Spaced _ "Mon, 2\r\n\tJan 06 15:04:05 -0700".toList :=
      .cons "Mon,".toList .space (.cons "2".toList
        (.fold [] .returnFeed ['\t'] (by simp) (by simp [isSpaceOrTab]) (by simp))
        (spaced_intercalate ["Jan".toList, "06".toList, "15:04:05".toList, "-0700".toList]
          (by decide)))
    have hq : unfold " (PDT)".toList = " (PDT)".toList := by
      have hink : IsInked "(PDT)".toList := by decide
      have hgap := hink.unfold_gap .space []
      rwa [unfold_nil] at hgap
    have hread := readTime_stamp
      (d := ⟨"Mon".toList, "2".toList, "Jan".toList, "06".toList, "15".toList, "04".toList,
        "05".toList, "-".toList, "0700".toList⟩)
      (by decide) (by decide) hs "from a (helo Sun, 1 Jan 06 00:00:00 +0000); ".toList
      (q := " (PDT)".toList) (by decide) (isStampless_of_notMem (by rw [hq]; decide))
    refine (hread.1 _).mpr ⟨⟨0, rfl, "January", rfl, .inr (by decide)⟩, by decide +kernel, ?_⟩
    exact ⟨by decide, by decide, by decide, by decide, by decide, by decide, by decide, by decide,
      by decide, by decide, by decide⟩
  · have hread := readTime_stamp
      (d := ⟨"Mon".toList, "32".toList, "Jan".toList, "06".toList, "15".toList, "04".toList,
        "05".toList, "-".toList, "0700".toList⟩)
      (by decide) (by decide) (spaced_intercalate _ (by decide)) [] (q := []) (by decide)
      (isStampless_of_notMem (by rw [unfold_nil]; decide))
    refine hread.2 fun t ht => ?_
    have hday : t.day = 32 := congrArg Time.day ht.numbers
    have hle := Nat.le_trans ht.range.day_le (Calendar.daysInMonth_le _ _)
    omega

end DeliveryWatch.Trace
