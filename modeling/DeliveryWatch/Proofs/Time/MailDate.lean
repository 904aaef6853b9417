/-
Mail dates that are written in full: how their words are read.

* `IsMonthName` — the name of a month or its first three letters; `monthNumber?_lower` — these words and
  no others stand for a month;
* `zone?_signed` — the zone of a sign and a numeral;
* `read?_words` — the numbers of a date of six words;
* `le_year_of_read?` — a date that is read is of the year 100 or later.
-/
import DeliveryWatch.Proofs.Text.Digit
import DeliveryWatch.Proofs.Time.Range

namespace DeliveryWatch

/-! ### Case of ASCII text -/

namespace Text

theorem lower_ascii {s : List Char} (h : ∀ c ∈ s, c.toNat < 128) : lower s = lowerAscii s := by
  suffices hfrom : ∀ before, lowerFrom before s = lowerAscii s from hfrom []
  induction s with
  | nil => exact fun _ => rfl
  | cons c r ih =>
    intro before
    have hc := h c List.mem_cons_self
    have hsigma : c ≠ 'Σ' := by
      rintro rfl
      exact absurd hc (by decide)
    rw [lowerFrom, if_neg hsigma, lowerChar_ascii hc, ih fun d hd => h d (List.mem_cons_of_mem c hd)]
    rfl

theorem upper_ascii {s : List Char} (h : ∀ c ∈ s, c.toNat < 128) : upper s = s.map Char.toUpper := by
  induction s with
  | nil => rfl
  | cons c r ih =>
    rw [upper, List.flatMap_cons, upperChar_ascii (h c List.mem_cons_self), ← upper,
      ih fun d hd => h d (List.mem_cons_of_mem c hd)]
    rfl

end Text

namespace MailDate

open Text

/-! ### Months -/

/-- A word that is the English name of the month with this number, or its first three letters; small and
capital letters are alike. -/
def IsMonthName (w : List Char) (m : Nat) : Prop :=
  ∃ i, m = i + 1 ∧ ∃ name ∈ Calendar.fullMonthNames[i]?,
    lowerAscii w = lowerAscii name.toList ∨ lowerAscii w = lowerAscii (name.toList.take 3)

theorem monthWords_eq : monthWords
    = (Calendar.fullMonthNames.map fun name => lowerAscii (name.toList.take 3))
      ++ Calendar.fullMonthNames.map fun name => lowerAscii name.toList := by
  decide

theorem getElem?_monthWords_short {i : Nat} (h : i < 12) : monthWords[i]?
    = (Calendar.fullMonthNames[i]?).map fun name => lowerAscii (name.toList.take 3) := by
  rw [monthWords_eq, List.getElem?_append_left (by rw [List.length_map]; exact h), List.getElem?_map]

theorem getElem?_monthWords_full (i : Nat) : monthWords[12 + i]?
    = (Calendar.fullMonthNames[i]?).map fun name => lowerAscii name.toList := by
  have hlength : (Calendar.fullMonthNames.map fun name => lowerAscii (name.toList.take 3)).length
      = 12 := rfl
  rw [monthWords_eq, List.getElem?_append_right (by rw [hlength]; omega), hlength,
    Nat.add_sub_cancel_left, List.getElem?_map]

/-- Each word stands for its month, even the one that is both a short and a full name. -/
theorem monthNumber?_of_getElem? {i : Nat} {w : List Char} (h : monthWords[i]? = some w) :
    monthNumber? w = some (i % 12 + 1) := by
  have htable : ∀ j : Fin 24,
      monthNumber? (monthWords[j.1]?.getD []) = some (j.1 % 12 + 1) := by decide
  obtain ⟨hi, -⟩ := List.getElem?_eq_some_iff.mp h
  have hrow := htable ⟨i, hi⟩
  rwa [h, Option.getD_some] at hrow

theorem monthNumber?_eq_some {w : List Char} {m : Nat} :
    monthNumber? w = some m ↔ ∃ i, m = i + 1 ∧ ∃ name ∈ Calendar.fullMonthNames[i]?,
      w = lowerAscii name.toList ∨ w = lowerAscii (name.toList.take 3) := by
  constructor
  · intro h
    obtain ⟨i, hi, rfl⟩ := Option.map_eq_some_iff.mp h
    obtain ⟨hlt, hw, -⟩ := List.idxOf?_eq_some_iff.mp hi
    have hget : monthWords[i]? = some w := by rw [List.getElem?_eq_getElem hlt, hw]
    have hlength : monthWords.length = 24 := rfl
    -- the short names come first, the full ones behind them
    by_cases hshort : i < 12
    · rw [getElem?_monthWords_short hshort] at hget
      obtain ⟨name, hname, rfl⟩ := Option.map_eq_some_iff.mp hget
      exact ⟨i, by omega, name, hname, .inr rfl⟩
    · obtain ⟨j, rfl⟩ : ∃ j, i = 12 + j := ⟨i - 12, by omega⟩
      rw [getElem?_monthWords_full] at hget
      obtain ⟨name, hname, rfl⟩ := Option.map_eq_some_iff.mp hget
      exact ⟨j, by omega, name, hname, .inl rfl⟩
  · rintro ⟨i, rfl, name, hname, hw⟩
    have hlt : i < 12 := (List.getElem?_eq_some_iff.mp hname).1
    have hmap := Option.mem_def.mp hname
    rcases hw with rfl | rfl
    · have hget := getElem?_monthWords_full i
      rw [hmap, Option.map_some] at hget
      rw [monthNumber?_of_getElem? hget, Nat.add_mod_left, Nat.mod_eq_of_lt hlt]
    · have hget := getElem?_monthWords_short hlt
      rw [hmap, Option.map_some] at hget
      rw [monthNumber?_of_getElem? hget, Nat.mod_eq_of_lt hlt]

/-- A word of ASCII stands for a month if it is the name of one, or its first three letters. -/
theorem monthNumber?_lower {w : List Char} (h : ∀ c ∈ w, c.toNat < 128) {m : Nat} :
    monthNumber? (lower w) = some m ↔ IsMonthName w m := by
  rw [lower_ascii h, monthNumber?_eq_some]
  rfl

/-! ### Zones -/

theorem toLower_of_isDigit {c : Char} (h : c.isDigit = true) : c.toLower = c := by
  obtain ⟨-, hle⟩ := toNat_of_isDigit h
  refine dif_neg ?_
  rintro ⟨hge, -⟩
  have : 65 ≤ c.toNat := UInt32.le_iff_toNat_le.mp hge
  omega

theorem toUpper_of_isDigit {c : Char} (h : c.isDigit = true) : c.toUpper = c := by
  obtain ⟨-, hle⟩ := toNat_of_isDigit h
  refine dif_neg ?_
  rintro ⟨hge, -⟩
  have : 97 ≤ c.toNat := UInt32.le_iff_toNat_le.mp hge
  omega

/-- A sign and a numeral are the same in capital letters. -/
theorem upper_signed {sign z : List Char} (hsign : IsSign sign) (h : ∀ c ∈ z, c.isDigit = true) :
    upper (sign ++ z) = sign ++ z := by
  have hchars : ∀ c ∈ sign ++ z, c.toNat < 128 ∧ c.toUpper = c := by
    intro c hc
    rcases List.mem_append.mp hc with hc | hc
    · rcases hsign.eq_of_mem hc with rfl | rfl
      · decide
      · decide
    · have := toNat_of_isDigit (h c hc)
      exact ⟨by omega, toUpper_of_isDigit (h c hc)⟩
  rw [upper_ascii fun c hc => (hchars c hc).1, List.map_congr_left fun c hc => (hchars c hc).2,
    List.map_id']

theorem notMem_of_numeral {names : List (List Char)}
    (hnames : (names.all fun w => w.all (!·.isDigit)) = true) (sign : List Char) {s : List Char}
    (h : IsNumeral s) : sign ++ s ∉ names := by
  intro hs
  obtain ⟨c, r, rfl⟩ := List.exists_cons_of_ne_nil h.ne
  have hc := List.all_eq_true.mp (List.all_eq_true.mp hnames _ hs) c (by simp)
  rw [h.digits c List.mem_cons_self] at hc
  cases hc

theorem lookup_namedZones {sign z : List Char} (h : IsNumeral z) :
    namedZones.lookup (String.ofList (sign ++ z)) = none := by
  have hnames : ((namedZones.map fun p => p.1.toList).all fun w => w.all (!·.isDigit)) = true := by
    decide
  rw [List.lookup_eq_none_iff]
  intro p hp
  rw [bne_iff_ne]
  intro heq
  refine notMem_of_numeral hnames sign h (List.mem_map.mpr ⟨p, hp, ?_⟩)
  rw [← heq, String.toList_ofList]

theorem zoneSeconds_natCast (n : Nat) :
    zoneSeconds n = (((n / 100) * 3600 + (n % 100) * 60 : Nat) : Int) := by
  rw [zoneSeconds, Int.natAbs_natCast]
  cases n with
  | zero => rfl
  | succ n => rw [Int.sign_eq_one_of_pos (by omega), Int.one_mul]

theorem zoneSeconds_neg (z : Int) : zoneSeconds (-z) = -zoneSeconds z := by
  rw [zoneSeconds, zoneSeconds, Int.sign_neg, Int.natAbs_neg, Int.neg_mul]

/-- The zone of a sign and a numeral; zero with a minus sign is none. -/
theorem zone?_signed {sign z : List Char} (hsign : IsSign sign) (h : IsNumeral z) :
    zone? (sign ++ z)
      = if signed sign z = 0 ∧ sign = ['-'] then none else some (zoneSeconds (signed sign z)) := by
  -- a numeral does not start with a sign, so a minus sign is the one in front
  have hhead : (sign ++ z).head? = some '-' ↔ sign = ['-'] := by
    constructor
    · intro hhead
      rcases hsign with rfl | rfl | rfl
      · have hmem := List.mem_of_mem_head? hhead
        exact absurd (h.digits '-' hmem) (by decide)
      · cases hhead
      · rfl
    · rintro rfl
      rfl
  simp only [zone?, upper_signed hsign h.digits, lookup_namedZones h, number?_signed hsign h,
    Option.bind_some, hhead]
  split
  · rfl
  · rfl

/-! ### Words -/

theorem notMem_numeral {s : List Char} (h : IsNumeral s) {c : Char} (hc : c.isDigit = false) :
    c ∉ s := by
  intro hmem
  rw [h.digits c hmem] at hc
  cases hc

theorem withoutComma_of_notMem {w : List Char} (h : ',' ∉ w) : withoutComma w = w := by
  rw [withoutComma, if_neg]
  intro hlast
  exact h (List.mem_of_getLast? hlast)

theorem showsDigit_of_isDigit {c : Char} (h : c.isDigit = true) : showsDigit c = true := by
  rw [showsDigit, digit?_of_isDigit h]
  rfl

theorem monthNumber?_numeral {s : List Char} (h : IsNumeral s) : monthNumber? (lower s) = none := by
  have hnames : (monthWords.all fun w => w.all (!·.isDigit)) = true := by decide
  have hlower : lower s = s := by
    have hsmall : ∀ c ∈ s, c.toNat < 128 := by
      intro c hc
      have := toNat_of_isDigit (h.digits c hc)
      omega
    rw [lower_ascii hsmall, lowerAscii,
      List.map_congr_left fun c hc => toLower_of_isDigit (h.digits c hc), List.map_id']
  rw [hlower, monthNumber?, Option.map_eq_none_iff, List.idxOf?_eq_none_iff]
  exact notMem_of_numeral hnames [] h

theorem arrange?_eq {day month year clock zone : List Char} (hday : IsNumeral day)
    (hmonth : month ≠ []) (hyear : IsNumeral year) (hclock : ',' ∉ clock) :
    arrange? [day, month, year, clock, zone]
      = (monthNumber? (lower month)).map fun m => (⟨day, month, year, clock, zone⟩, m) := by
  obtain ⟨c, r, hcr⟩ := List.exists_cons_of_ne_nil hyear.ne
  have hc : showsDigit c = true :=
    showsDigit_of_isDigit (hyear.digits c (by rw [hcr]; exact List.mem_cons_self))
  have hcolon : year.contains ':' = false := by
    rw [List.contains_eq_mem, decide_eq_false_iff_not]
    exact notMem_numeral hyear (by decide)
  have hhead : year.head? = some c := by rw [hcr]; rfl
  have hempty : (day.isEmpty || month.isEmpty || year.isEmpty) = false := by
    simp [hday.ne, hmonth, hyear.ne]
  have hcomma : ∀ {s : List Char}, IsNumeral s → withoutComma s = s := fun h =>
    withoutComma_of_notMem (notMem_numeral h (by decide))
  rw [arrange?, hempty, if_neg Bool.false_ne_true]
  cases hm : monthNumber? (lower month) with
  | none =>
    simp only [monthNumber?_numeral hday]
    rfl
  | some m =>
    simp only [hcolon, Bool.false_and, Bool.false_eq_true, if_false, if_true, hcomma hday,
      hcomma hyear, withoutComma_of_notMem hclock, hhead, hc, Option.bind_eq_bind, Option.bind_some,
      Option.map_some]

theorem clockWords?_eq {hour minute second : List Char} (hhour : IsNumeral hour)
    (hminute : IsNumeral minute) (hsecond : IsNumeral second) :
    clockWords? (hour ++ ':' :: (minute ++ ':' :: second)) = some (hour, minute, second) := by
  have hsplit : (hour ++ ':' :: (minute ++ ':' :: second)).splitOn ':' = [hour, minute, second] := by
    rw [List.splitOn, List.splitOnP_append_cons _ _ (by simp), List.splitOnP_append_cons _ _ (by simp),
      ← List.splitOn, ← List.splitOn, ← List.splitOn,
      List.splitOn_eq_singleton (notMem_numeral hhour (by decide)),
      List.splitOn_eq_singleton (notMem_numeral hminute (by decide)),
      List.splitOn_eq_singleton (notMem_numeral hsecond (by decide))]
    rfl
  rw [clockWords?, hsplit]

/-- **Six words are read as the numbers they write**, if the third is the name of a month. -/
theorem read?_words {text day month year hour minute second zone : List Char} {w : List Char}
    (hwords : words text = [w ++ [','], day, month, year, hour ++ ':' :: (minute ++ ':' :: second), zone])
    (hday : IsNumeral day) (hmonth : month ≠ []) (hyear : IsNumeral year) (hhour : IsNumeral hour)
    (hminute : IsNumeral minute) (hsecond : IsNumeral second) :
    read? text = (monthNumber? (lower month)).map fun m =>
      ⟨fullYear (decimalValue year), m, decimalValue day, decimalValue hour, decimalValue minute,
       decimalValue second, zone? zone⟩ := by
  have hname : withoutDayName (words text)
      = [day, month, year, hour ++ ':' :: (minute ++ ':' :: second), zone] := by
    rw [hwords, withoutDayName, if_pos (.inl (by simp))]
  have hclock : ',' ∉ hour ++ ':' :: (minute ++ ':' :: second) := by
    simp [notMem_numeral hhour, notMem_numeral hminute, notMem_numeral hsecond]
  -- five words are neither joined by dashes nor without a zone
  have hfive : withZone (withoutDashes (withoutDayName (words text)))
      = [day, month, year, hour ++ ':' :: (minute ++ ':' :: second), zone] := by
    rw [hname]
    rfl
  rw [read?, hfive, arrange?_eq hday hmonth hyear hclock]
  cases monthNumber? (lower month) with
  | none => rfl
  | some m =>
    simp only [Option.map_some, Option.bind_eq_bind, Option.bind_some,
      clockWords?_eq hhour hminute hsecond, number?_numeral hday, number?_numeral hyear,
      number?_numeral hhour, number?_numeral hminute, number?_numeral hsecond]

/-! ### Years -/

/-- A year that is written without a sign is not before the year 100. -/
theorem le_fullYear {y : Int} (h : 0 ≤ y) : 100 ≤ fullYear y := by
  rw [fullYear]
  repeat' split
  all_goals omega

/-- Digits in the third of five words are the year. -/
theorem year_of_arrange? {day month year clock zone : List Char} {p : Parts} {m : Nat}
    (hyear : ∀ c ∈ year, c.isDigit = true)
    (h : arrange? [day, month, year, clock, zone] = some (p, m)) : p.year = year := by
  have hnot : ∀ {c : Char}, c.isDigit = false → c ∉ year := by
    intro c hc hmem
    rw [hyear c hmem] at hc
    cases hc
  have hcolon : year.contains ':' = false := by
    rw [List.contains_eq_mem, decide_eq_false_iff_not]
    exact hnot (by decide)
  have hcomma : withoutComma year = year := withoutComma_of_notMem (hnot (by decide))
  simp only [arrange?, hcolon, Bool.false_and, Bool.false_eq_true, if_false, hcomma] at h
  split at h
  · cases h
  · simp only [Option.bind_eq_bind] at h
    -- the month may be the second word or the first, which does not matter for the third
    split at h
    all_goals
      simp only [Option.bind_eq_some_iff] at h
      obtain ⟨_, -, c, hc, h⟩ := h
      rw [if_pos (showsDigit_of_isDigit (hyear c (List.mem_of_head? hc)))] at h
      cases h
      rfl

theorem le_year_of_read? {text w day month year clock zone : List Char} {d : MailDate}
    (hwords : words text = [w ++ [','], day, month, year, clock, zone])
    (hyear : ∀ c ∈ year, c.isDigit = true) (h : read? text = some d) : 100 ≤ d.year := by
  have hfive : withZone (withoutDashes (withoutDayName (words text)))
      = [day, month, year, clock, zone] := by
    rw [hwords, withoutDayName, if_pos (.inl (by simp))]
    rfl
  simp only [read?, hfive, Option.bind_eq_bind, Option.bind_eq_some_iff] at h
  obtain ⟨⟨p, m⟩, hp, _, -, y, hy, _, -, _, -, _, -, _, -, h⟩ := h
  cases h
  rw [year_of_arrange? hyear hp] at hy
  exact le_fullYear (nonneg_of_number? hyear hy)

end MailDate

end DeliveryWatch
