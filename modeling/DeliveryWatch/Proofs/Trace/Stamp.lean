/-
The search for the stamp of a trace field: what it takes, and which stamp is the last.

* `Piece.Spells` — what a piece takes off the front of a text, the rest being known;
* `Stamp` — the parts of a stamp; `takeAll?_form` — the form takes the stamps, and nothing else;
* `IsFormed.exists_of_append` — a stamp that begins before another one ends before it begins;
* `lastStamp?_append` — the last stamp counts, whatever stands before it;
* `exists_stamp_of_lastStamp?` — what is found is a stamp in any case.
-/
import DeliveryWatch.Proofs.Message.Unfold
import DeliveryWatch.Proofs.Text.Digit
import DeliveryWatch.Trace.Stamp

namespace DeliveryWatch.Trace

open Text Message

/-! ### Pieces of a form -/

/-- A run of characters of a class, not empty. -/
structure IsRun (p : Char → Bool) (w : List Char) : Prop where
  ne : w ≠ []
  chars : ∀ c ∈ w, p c = true

instance (p : Char → Bool) (w : List Char) : Decidable (IsRun p w) :=
  decidable_of_iff (w ≠ [] ∧ w.all p = true)
    ⟨fun h => ⟨h.1, List.all_eq_true.mp h.2⟩, fun h => ⟨h.ne, List.all_eq_true.mpr h.chars⟩⟩

/-- The text does not go on with a character of the class. -/
def Stops (p : Char → Bool) (r : List Char) : Prop := ∀ c ∈ r.head?, p c = false

instance (p : Char → Bool) (r : List Char) : Decidable (Stops p r) :=
  match r with
  | [] => isTrue (by intro c hc; cases hc)
  | d :: _ =>
    decidable_of_iff (p d = false)
      ⟨fun h c hc => by cases hc; exact h, fun h => h d rfl⟩

theorem stops_dropWhile {p : Char → Bool} (s : List Char) : Stops p (s.dropWhile p) :=
  head_dropWhile

namespace Piece

/-- What a piece takes off the front of a text, where `r` follows it. -/
def Spells : Piece → List Char → List Char → Prop
  | exactly n p, w, _ => w.length = n ∧ ∀ c ∈ w, p c = true
  | run p, w, r => IsRun p w ∧ Stops p r
  | optional p, w, r => (∃ c, p c = true ∧ w = [c]) ∨ w = [] ∧ Stops p r
  | literal a, w, _ => w = [a]

variable {x : Piece} {s w r : List Char}

/-- A piece takes what it spells. -/
theorem take?_append (h : x.Spells w r) : x.take? (w ++ r) = some (w, r) := by
  cases x with
  | «exactly» n p =>
    obtain ⟨rfl, hall⟩ := h
    simp only [take?, List.splitAt_eq, List.take_left, List.drop_left]
    exact if_pos ⟨trivial, List.all_eq_true.mpr hall⟩
  | run p =>
    obtain ⟨⟨hne, hall⟩, hr⟩ := h
    obtain ⟨c, w, rfl⟩ := List.exists_cons_of_ne_nil hne
    simp only [take?, takeWhile_append_of_head hall hr, dropWhile_append_of_head hall hr]
  | optional p =>
    obtain ⟨c, hc, rfl⟩ | ⟨rfl, hr⟩ := h
    · exact if_pos hc
    · cases r with
      | nil => rfl
      | cons d r => exact if_neg (by simp [hr d rfl])
  | literal a =>
    cases h
    exact if_pos rfl

theorem spells_of_take? (h : x.take? s = some (w, r)) : x.Spells w r ∧ s = w ++ r := by
  cases x with
  | «exactly» n p =>
    simp only [take?, List.splitAt_eq] at h
    split at h
    · rename_i hcond
      cases h
      exact ⟨⟨hcond.1, List.all_eq_true.mp hcond.2⟩, (List.take_append_drop n s).symm⟩
    · cases h
  | run p =>
    simp only [take?] at h
    split at h
    · cases h
    · rename_i hne
      cases h
      have hall := List.all_eq_true.mp (List.all_takeWhile (p := p) (l := s))
      exact ⟨⟨⟨hne, hall⟩, stops_dropWhile s⟩, List.takeWhile_append_dropWhile.symm⟩
  | optional p =>
    cases s with
    | nil =>
      cases h
      exact ⟨.inr ⟨rfl, by intro c hc; cases hc⟩, rfl⟩
    | cons d t =>
      simp only [take?] at h
      split at h
      · rename_i hd
        cases h
        exact ⟨.inl ⟨d, hd, rfl⟩, rfl⟩
      · rename_i hd
        cases h
        refine ⟨.inr ⟨rfl, fun c hc => ?_⟩, rfl⟩
        cases hc
        exact Bool.eq_false_iff.mpr hd
  | literal a =>
    cases s with
    | nil => cases h
    | cons d t =>
      simp only [take?] at h
      split at h
      · rename_i hd
        cases h
        exact ⟨congrArg (fun c => [c]) hd, rfl⟩
      · cases h

/-- What the pieces of a form take one after the other, where `r` follows them all. -/
inductive SpellAll (r : List Char) : List Piece → List (List Char) → Prop
  | nil : SpellAll r [] []
  | cons {x : Piece} {w : List Char} {xs : List Piece} {ws : List (List Char)}
      (hw : x.Spells w (ws.flatten ++ r)) (hws : SpellAll r xs ws) : SpellAll r (x :: xs) (w :: ws)

@[simp] theorem spellAll_nil {ws : List (List Char)} : SpellAll r [] ws ↔ ws = [] := by
  constructor
  · intro h
    cases h
    rfl
  · rintro rfl
    exact .nil

theorem spellAll_cons {xs : List Piece} {ws : List (List Char)} :
    SpellAll r (x :: xs) ws
      ↔ ∃ w ws', ws = w :: ws' ∧ x.Spells w (ws'.flatten ++ r) ∧ SpellAll r xs ws' := by
  constructor
  · intro h
    cases h with
    | cons hw hws => exact ⟨_, _, rfl, hw, hws⟩
  · rintro ⟨w, ws', rfl, hw, hws⟩
    exact .cons hw hws

/-- **A form takes what its pieces spell one after the other**, and nothing else. -/
theorem takeAll?_eq_some {xs : List Piece} :
    takeAll? xs s = some (w, r) ↔ s = w ++ r ∧ ∃ ws, SpellAll r xs ws ∧ w = ws.flatten := by
  induction xs generalizing s w with
  | nil =>
    simp only [takeAll?, spellAll_nil, exists_eq_left, List.flatten_nil, Option.some.injEq,
      Prod.mk.injEq]
    constructor
    · rintro ⟨rfl, rfl⟩
      exact ⟨rfl, rfl⟩
    · rintro ⟨rfl, rfl⟩
      exact ⟨rfl, rfl⟩
  | cons x xs ih =>
    simp only [takeAll?, Option.bind_eq_bind, Option.bind_eq_some_iff, spellAll_cons]
    constructor
    · rintro ⟨⟨v, t⟩, hv, ⟨vs, r'⟩, hvs, h⟩
      cases h
      -- the first piece takes its part, and the others take theirs from the rest
      obtain ⟨hspells, rfl⟩ := spells_of_take? hv
      obtain ⟨rfl, ws, hws, rfl⟩ := ih.mp hvs
      exact ⟨(List.append_assoc _ _ _).symm, v :: ws, ⟨v, ws, rfl, hspells, hws⟩, rfl⟩
    · rintro ⟨rfl, ws, ⟨v, ws', rfl, hspells, hws⟩, rfl⟩
      refine ⟨(v, ws'.flatten ++ r), ?_, (ws'.flatten, r), ih.mpr ⟨rfl, ws', hws, rfl⟩, rfl⟩
      rw [List.flatten_cons, List.append_assoc]
      exact take?_append hspells

end Piece

/-! ### Stamps -/

/-- The parts of a stamp, as they are written: `Mon, 2 Jan 2006 15:04:05 -0700`. -/
structure Stamp where
  weekday : List Char
  day : List Char
  month : List Char
  year : List Char
  hour : List Char
  minute : List Char
  second : List Char
  sign : List Char
  zone : List Char
  deriving Repr, DecidableEq

namespace Stamp

/-- The parts have the form of a stamp; they may name a date or not. -/
structure IsFormed (d : Stamp) : Prop where
  weekday_length : d.weekday.length = 3
  weekday : ∀ c ∈ d.weekday, isWordLetter c = true
  day : IsRun isDigit d.day
  month : IsRun isWordLetter d.month
  year : IsRun isDigit d.year
  hour : IsRun isDigit d.hour
  minute : IsRun isDigit d.minute
  second : IsRun isDigit d.second
  sign : IsSign d.sign
  zone : IsRun isDigit d.zone

instance (d : Stamp) : Decidable d.IsFormed :=
  decidable_of_iff
    (d.weekday.length = 3 ∧ d.weekday.all isWordLetter = true ∧ IsRun isDigit d.day
      ∧ IsRun isWordLetter d.month ∧ IsRun isDigit d.year ∧ IsRun isDigit d.hour
      ∧ IsRun isDigit d.minute ∧ IsRun isDigit d.second ∧ IsSign d.sign ∧ IsRun isDigit d.zone)
    ⟨fun ⟨hl, hw, hd, hmo, hy, hh, hmi, hs, hsi, hz⟩ =>
        ⟨hl, List.all_eq_true.mp hw, hd, hmo, hy, hh, hmi, hs, hsi, hz⟩,
      fun ⟨hl, hw, hd, hmo, hy, hh, hmi, hs, hsi, hz⟩ =>
        ⟨hl, List.all_eq_true.mpr hw, hd, hmo, hy, hh, hmi, hs, hsi, hz⟩⟩

/-- The time of day, with its colons. -/
def clock (d : Stamp) : List Char := d.hour ++ ':' :: (d.minute ++ ':' :: d.second)

/-- The words of a stamp. -/
def words (d : Stamp) : List (List Char) :=
  [d.weekday ++ [','], d.day, d.month, d.year, d.clock, d.sign ++ d.zone]

/-- The text of a stamp, with single spaces between the words. -/
def text (d : Stamp) : List Char := [' '].intercalate d.words

/-- The parts of a stamp and the signs between them, one for each piece of the form. -/
def pieces (d : Stamp) : List (List Char) :=
  [d.weekday, [','], [' '], d.day, [' '], d.month, [' '], d.year, [' '], d.hour, [':'], d.minute,
   [':'], d.second, [' '], d.sign, d.zone]

theorem flatten_pieces (d : Stamp) : d.pieces.flatten = d.text := by
  simp [pieces, text, words, clock]

end Stamp

/-! ### The form of a stamp -/

theorem Stops.of_head {p : Char → Bool} {c : Char} (h : p c = false) (r : List Char) :
    Stops p (c :: r) := by
  intro d hd
  cases hd
  exact h

theorem isSign_of_isDigit {c : Char} (h : isDigit c = true) : (c == '-' || c == '+') = false := by
  rw [Bool.or_eq_false_iff, beq_eq_false_iff_ne, beq_eq_false_iff_ne]
  constructor
  · rintro rfl
    exact absurd h (by decide)
  · rintro rfl
    exact absurd h (by decide)

/-- A sign is taken, or its absence, where digits follow. -/
theorem spells_sign {w v : List Char} (h : IsSign w) (hv : IsRun isDigit v) (r : List Char) :
    (Piece.optional fun c => c == '-' || c == '+').Spells w (v ++ r) := by
  rcases h with rfl | rfl | rfl
  · obtain ⟨c, v, rfl⟩ := List.exists_cons_of_ne_nil hv.ne
    exact .inr ⟨rfl, .of_head (isSign_of_isDigit (hv.chars c List.mem_cons_self)) _⟩
  · exact .inl ⟨'+', rfl, rfl⟩
  · exact .inl ⟨'-', rfl, rfl⟩

/-- The pieces of the form spell the parts of a stamp that no digit follows. -/
theorem spellAll_form {r : List Char} {ws : List (List Char)} :
    Piece.SpellAll r form ws ↔ Stops isDigit r ∧ ∃ d : Stamp, d.IsFormed ∧ ws = d.pieces := by
  constructor
  · intro h
    -- one piece after the other, each run with the sign behind it
    rw [form] at h
    obtain _ | ⟨⟨hlen, hweekday⟩, _ | ⟨rfl, _ | ⟨rfl, h⟩⟩⟩ := h
    obtain _ | ⟨⟨hday, -⟩, _ | ⟨rfl, h⟩⟩ := h
    obtain _ | ⟨⟨hmonth, -⟩, _ | ⟨rfl, h⟩⟩ := h
    obtain _ | ⟨⟨hyear, -⟩, _ | ⟨rfl, h⟩⟩ := h
    obtain _ | ⟨⟨hhour, -⟩, _ | ⟨rfl, h⟩⟩ := h
    obtain _ | ⟨⟨hminute, -⟩, _ | ⟨rfl, h⟩⟩ := h
    obtain _ | ⟨⟨hsecond, -⟩, _ | ⟨rfl, h⟩⟩ := h
    obtain _ | ⟨hsign, _ | ⟨⟨hzone, hr⟩, h⟩⟩ := h
    cases h
    refine ⟨hr, ⟨_, _, _, _, _, _, _, _, _⟩, ⟨hlen, hweekday, hday, hmonth, hyear, hhour, hminute,
      hsecond, ?_, hzone⟩, rfl⟩
    obtain ⟨c, hc, rfl⟩ | ⟨rfl, -⟩ := hsign
    · rw [Bool.or_eq_true, beq_iff_eq, beq_iff_eq] at hc
      rcases hc with rfl | rfl
      · exact .inr (.inr rfl)
      · exact .inr (.inl rfl)
    · exact .inl rfl
  · rintro ⟨hr, d, hd, rfl⟩
    -- behind each run stands the sign that ends it
    refine .cons ⟨hd.weekday_length, hd.weekday⟩ (.cons rfl (.cons rfl ?_))
    refine .cons ⟨hd.day, .of_head (by decide) _⟩ (.cons rfl ?_)
    refine .cons ⟨hd.month, .of_head (by decide) _⟩ (.cons rfl ?_)
    refine .cons ⟨hd.year, .of_head (by decide) _⟩ (.cons rfl ?_)
    refine .cons ⟨hd.hour, .of_head (by decide) _⟩ (.cons rfl ?_)
    refine .cons ⟨hd.minute, .of_head (by decide) _⟩ (.cons rfl ?_)
    refine .cons ⟨hd.second, .of_head (by decide) _⟩ (.cons rfl ?_)
    refine .cons ?_ (.cons ⟨hd.zone, hr⟩ .nil)
    rw [List.flatten_cons, List.append_assoc]
    exact spells_sign hd.sign hd.zone _

/-- **The form takes the text of a stamp**, as far as its zone goes on, and nothing else. -/
theorem takeAll?_form {s w r : List Char} : Piece.takeAll? form s = some (w, r)
    ↔ s = w ++ r ∧ Stops isDigit r ∧ ∃ d : Stamp, d.IsFormed ∧ w = d.text := by
  simp only [Piece.takeAll?_eq_some, spellAll_form]
  constructor
  · rintro ⟨rfl, _, ⟨hr, d, hd, rfl⟩, rfl⟩
    exact ⟨rfl, hr, d, hd, d.flatten_pieces⟩
  · rintro ⟨rfl, hr, d, hd, rfl⟩
    exact ⟨rfl, d.pieces, ⟨hr, d, hd, rfl⟩, d.flatten_pieces.symm⟩

/-! ### Stamps do not overlap -/

theorem comma_notMem {p : Char → Bool} {w : List Char} (h : ∀ c ∈ w, p c = true)
    (hp : p ',' = false) : ',' ∉ w := by
  intro hc
  rw [h ',' hc] at hp
  cases hp

namespace Stamp.IsFormed

variable {d : Stamp} (h : d.IsFormed)

include h

/-- A stamp has one comma, behind its weekday. -/
theorem exists_comma : ∃ t, d.text = d.weekday ++ ',' :: t ∧ ',' ∉ t := by
  refine ⟨' ' :: [' '].intercalate [d.day, d.month, d.year, d.clock, d.sign ++ d.zone], ?_, ?_⟩
  · simp [text, words]
  · have hsign : ',' ∉ d.sign := by
      intro hc
      rcases h.sign.eq_of_mem hc with heq | heq
      · cases heq
      · cases heq
    simp [clock, comma_notMem h.day.chars, comma_notMem h.month.chars, comma_notMem h.year.chars,
      comma_notMem h.hour.chars, comma_notMem h.minute.chars, comma_notMem h.second.chars,
      comma_notMem h.zone.chars, hsign, isDigit, isWordLetter]

theorem text_ne_nil : d.text ≠ [] := by
  obtain ⟨t, ht, -⟩ := h.exists_comma
  rw [ht]
  simp

theorem isDigit_getLast : ∀ c ∈ d.text.getLast?, isDigit c = true := by
  intro c hc
  have htext : d.text = [' '].intercalate [d.weekday ++ [','], d.day, d.month, d.year, d.clock]
      ++ ' ' :: d.sign ++ d.zone := by
    simp [text, words]
  rw [htext, List.getLast?_append_of_ne_nil _ h.zone.ne] at hc
  exact h.zone.chars c (List.mem_of_getLast? hc)

end Stamp.IsFormed

theorem toNat_of_isWordLetter {c : Char} (h : isWordLetter c = true) :
    65 ≤ c.toNat ∧ c.toNat ≤ 122 := by
  simp only [isWordLetter, Bool.or_eq_true, Bool.and_eq_true, decide_eq_true_eq, beq_iff_eq,
    Char.le_def, UInt32.le_iff_toNat_le] at h
  rcases h with (⟨hge, hle⟩ | ⟨hge, hle⟩) | rfl
  · have hge' : 97 ≤ c.toNat := hge
    exact ⟨by omega, hle⟩
  · have hle' : c.toNat ≤ 90 := hle
    exact ⟨hge, by omega⟩
  · decide

theorem not_isDigit_of_isWordLetter {c : Char} (h : isWordLetter c = true) : isDigit c = false := by
  obtain ⟨hge, -⟩ := toNat_of_isWordLetter h
  rw [Bool.eq_false_iff]
  intro hd
  have := toNat_of_isDigit hd
  omega

/-- **A stamp that begins before another one ends before it begins**: it would have to end within its
weekday, which has no digit, or else to hold its comma. -/
theorem Stamp.IsFormed.exists_of_append {d e : Stamp} (hd : d.IsFormed) (he : e.IsFormed)
    {p q rest : List Char} (hp : p ≠ []) (h : p ++ (d.text ++ q) = e.text ++ rest) :
    ∃ p', p = e.text ++ p' := by
  obtain ⟨t, hdt, -⟩ := hd.exists_comma
  obtain ⟨te, het, hte⟩ := he.exists_comma
  -- a part of the weekday at the end of the other stamp would put a letter there
  have hend : ∀ y z, d.weekday = y ++ z → e.text = p ++ y → y = [] := by
    intro y z hy hey
    by_contra hne
    have hlast := he.isDigit_getLast (y.getLast hne) (by
      rw [hey, List.getLast?_append_of_ne_nil _ hne, List.getLast?_eq_some_getLast hne]
      rfl)
    have hletter := hd.weekday (y.getLast hne) (by
      rw [hy]
      exact List.mem_append_left z (List.getLast_mem hne))
    rw [not_isDigit_of_isWordLetter hletter] at hlast
    cases hlast
  rcases List.append_eq_append_iff.mp h with ⟨y, hy, hrest⟩ | ⟨y, hy, -⟩
  · rw [hdt, List.append_assoc] at hrest
    rcases List.append_eq_append_iff.mp hrest with ⟨z, rfl, hz⟩ | ⟨z, hz, -⟩
    · cases z with
      | nil =>
        rw [List.append_nil] at hy
        have hnil := hend d.weekday [] (List.append_nil _).symm hy
        exact ⟨[], by rw [hy, hnil, List.append_nil, List.append_nil]⟩
      | cons c z =>
        obtain ⟨rfl, -⟩ := List.cons.inj hz
        -- the comma of the stamp behind it would be its own
        have hwe : ',' ∉ e.weekday := comma_notMem he.weekday (by decide)
        rw [het, ← List.append_assoc] at hy
        have hlen := congrArg List.length ((List.append_cons_inj_of_notMem hwe hte).mp hy).1
        rw [List.length_append, hd.weekday_length, he.weekday_length] at hlen
        exact absurd (List.length_eq_zero_iff.mp (by omega)) hp
    · have hnil := hend y z hz hy
      exact ⟨[], by rw [hy, hnil, List.append_nil, List.append_nil]⟩
  · exact ⟨y, hy⟩

/-! ### The last stamp -/

/-- A text without a stamp anywhere in it. -/
def IsStampless (q : List Char) : Prop := ∀ e : Stamp, e.IsFormed → ¬ e.text <:+: q

/-- Without a comma there is no stamp. -/
theorem isStampless_of_notMem {q : List Char} (h : ',' ∉ q) : IsStampless q := by
  intro e he hpart
  obtain ⟨t, ht, -⟩ := he.exists_comma
  refine h (hpart.subset ?_)
  rw [ht]
  exact List.mem_append_right _ List.mem_cons_self

theorem IsStampless.tail {c : Char} {r : List Char} (h : IsStampless (c :: r)) : IsStampless r := by
  intro e he hr
  exact h e he (hr.trans (List.suffix_cons c r).isInfix)

theorem lastStampFrom_of_none {c : Char} {r : List Char} (last : Option (List Char)) (fuel : Nat)
    (h : Piece.takeAll? form (c :: r) = none) :
    lastStampFrom last (fuel + 1) (c :: r) = lastStampFrom last fuel r := by
  rw [lastStampFrom, h]

theorem lastStampFrom_of_some {s w rest : List Char} (last : Option (List Char)) (fuel : Nat)
    (hne : s ≠ []) (h : Piece.takeAll? form s = some (w, rest)) :
    lastStampFrom last (fuel + 1) s = lastStampFrom (some w) fuel rest := by
  obtain ⟨c, r, rfl⟩ := List.exists_cons_of_ne_nil hne
  rw [lastStampFrom, h]

/-- A text without a stamp does not change which stamp is the last. -/
theorem lastStampFrom_of_isStampless {q : List Char} (h : IsStampless q) (last : Option (List Char))
    (fuel : Nat) : lastStampFrom last fuel q = last := by
  induction fuel generalizing q with
  | zero => rfl
  | succ fuel ih =>
    cases q with
    | nil => rfl
    | cons c r =>
      cases ht : Piece.takeAll? form (c :: r) with
      | none =>
        rw [lastStampFrom_of_none last fuel ht]
        exact ih h.tail
      | some found =>
        obtain ⟨w, rest⟩ := found
        obtain ⟨heq, -, e, he, rfl⟩ := takeAll?_form.mp ht
        -- a form found here would be a stamp in a text without stamps
        exact absurd ⟨[], rest, heq.symm⟩ (h e he)

/-- The search goes on behind every other stamp, and comes to the last one. -/
theorem lastStampFrom_append {d : Stamp} (hd : d.IsFormed) {q : List Char} (hdigit : Stops isDigit q)
    (hq : IsStampless q) (p : List Char) (last : Option (List Char)) {fuel : Nat}
    (hfuel : (p ++ (d.text ++ q)).length ≤ fuel) :
    lastStampFrom last fuel (p ++ (d.text ++ q)) = some d.text := by
  have hpos := List.length_pos_iff.mpr hd.text_ne_nil
  rw [List.length_append, List.length_append] at hfuel
  induction fuel generalizing p last with
  | zero => omega
  | succ fuel ih =>
    cases p with
    | nil =>
      have htake := takeAll?_form.mpr ⟨rfl, hdigit, d, hd, rfl⟩
      rw [List.nil_append, lastStampFrom_of_some last fuel (by simp [hd.text_ne_nil]) htake]
      exact lastStampFrom_of_isStampless hq _ fuel
    | cons c p =>
      rw [List.length_cons] at hfuel
      cases htake : Piece.takeAll? form (c :: p ++ (d.text ++ q)) with
      | none =>
        rw [List.cons_append] at htake ⊢
        rw [lastStampFrom_of_none last fuel htake]
        exact ih p last (by omega)
      | some found =>
        obtain ⟨w, rest⟩ := found
        obtain ⟨heq, -, e, he, rfl⟩ := takeAll?_form.mp htake
        have hlong := List.length_pos_iff.mpr he.text_ne_nil
        obtain ⟨p', hp⟩ := hd.exists_of_append he (List.cons_ne_nil c p) heq
        -- what is left behind the other stamp
        rw [hp, List.append_assoc] at heq
        rw [lastStampFrom_of_some last fuel (by simp) htake, ← List.append_cancel_left heq]
        have hlen := congrArg List.length hp
        rw [List.length_cons, List.length_append] at hlen
        exact ih p' _ (by omega)

/-- **The last stamp counts**, whatever stands before it. -/
theorem lastStamp?_append {d : Stamp} (hd : d.IsFormed) (p : List Char) {q : List Char}
    (hdigit : Stops isDigit q) (hq : IsStampless q) :
    lastStamp? (p ++ (d.text ++ q)) = some d.text :=
  lastStampFrom_append hd hdigit hq p none (Nat.le_refl _)

theorem exists_stamp_of_lastStampFrom {last : Option (List Char)} {fuel : Nat} {s w : List Char}
    (h : lastStampFrom last fuel s = some w) : last = some w ∨ ∃ d : Stamp, d.IsFormed ∧ w = d.text := by
  induction fuel generalizing last s with
  | zero => exact .inl h
  | succ fuel ih =>
    cases s with
    | nil => exact .inl h
    | cons c r =>
      cases htake : Piece.takeAll? form (c :: r) with
      | none =>
        rw [lastStampFrom_of_none last fuel htake] at h
        exact ih h
      | some found =>
        obtain ⟨v, rest⟩ := found
        rw [lastStampFrom_of_some last fuel (List.cons_ne_nil c r) htake] at h
        -- the stamp found last is kept unless a later one is found
        rcases ih h with hfound | hstamp
        · cases hfound
          exact .inr (takeAll?_form.mp htake).2.2
        · exact .inr hstamp

theorem exists_stamp_of_lastStamp? {s w : List Char} (h : lastStamp? s = some w) :
    ∃ d : Stamp, d.IsFormed ∧ w = d.text := by
  rcases exists_stamp_of_lastStampFrom h with hnone | hstamp
  · cases hnone
  · exact hstamp

end DeliveryWatch.Trace
