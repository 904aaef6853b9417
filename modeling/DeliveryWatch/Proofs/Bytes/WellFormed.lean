/-
Only UTF-8 is read.

* `eq_encodeChar_of_spells` — only the bytes of a character spell it: overlong forms, surrogates and what
  lies beyond the last character spell nothing;
* `exists_spells` — the first character that is read was spelled by the first bytes;
* `decode?_eq_some_iff` — so bytes are read as a text exactly if they are the bytes of this text;
* `encode_eq_toUTF8` — these are the bytes that a string is made of.
-/
import DeliveryWatch.Proofs.Bytes.Utf8

namespace DeliveryWatch.Utf8

/-! ### What spells a character -/

theorem byte_toNat (b : UInt8) : byte b.toNat = b := UInt8.ofNat_toNat

theorem toNat_ofNat {v : Nat} (h : v < 0xD800 ∨ 0xDFFF < v ∧ v < 0x110000) :
    (Char.ofNat v).toNat = v := by
  rw [Char.ofNat, dif_pos h]
  rfl

theorem encodeChar_one {c : Char} (h : c.toNat < 0x80) : encodeChar c = [byte c.toNat] := by
  unfold encodeChar
  simp only
  rw [if_pos h]

theorem encodeChar_two {c : Char} {n : Nat} (hc : c.toNat = n) (h : 0x80 ≤ n) (h' : n < 0x800) :
    encodeChar c = [byte (0xC0 + n / 0x40), byte (0x80 + n % 0x40)] := by
  unfold encodeChar
  simp only
  rw [hc, if_neg (by omega), if_pos h']

theorem encodeChar_three {c : Char} {n : Nat} (hc : c.toNat = n) (h : 0x800 ≤ n) (h' : n < 0x10000) :
    encodeChar c
      = [byte (0xE0 + n / 0x1000), byte (0x80 + n / 0x40 % 0x40), byte (0x80 + n % 0x40)] := by
  unfold encodeChar
  simp only
  rw [hc, if_neg (by omega), if_neg (by omega), if_pos h']

theorem encodeChar_four {c : Char} {n : Nat} (hc : c.toNat = n) (h : 0x10000 ≤ n) :
    encodeChar c = [byte (0xF0 + n / 0x40000), byte (0x80 + n / 0x1000 % 0x40),
      byte (0x80 + n / 0x40 % 0x40), byte (0x80 + n % 0x40)] := by
  unfold encodeChar
  simp only
  rw [hc, if_neg (by omega), if_neg (by omega), if_neg (by omega)]

theorem lead_eq_whole {b : UInt8} {c : Char} (h : lead b = .whole c) :
    b.toNat < 0x80 ∧ c = Char.ofNat b.toNat := by
  unfold lead at h
  simp only at h
  split at h
  · cases h
    exact ⟨by assumption, rfl⟩
  · repeat' split at h
    all_goals cases h

/-- Three kinds of bytes open a sequence. -/
theorem lead_eq_first {b : UInt8} {p : Pending} (h : lead b = .first p) :
    0xC2 ≤ b.toNat ∧ b.toNat < 0xE0 ∧ p = ⟨1, b.toNat - 0xC0, 0x80, 0xBF⟩ ∨
    0xE0 ≤ b.toNat ∧ b.toNat < 0xF0 ∧ p = ⟨2, b.toNat - 0xE0,
      if b.toNat = 0xE0 then 0xA0 else 0x80, if b.toNat = 0xED then 0x9F else 0xBF⟩ ∨
    0xF0 ≤ b.toNat ∧ b.toNat ≤ 0xF4 ∧ p = ⟨3, b.toNat - 0xF0,
      if b.toNat = 0xF0 then 0x90 else 0x80, if b.toNat = 0xF4 then 0x8F else 0xBF⟩ := by
  have hread : lead (byte b.toNat) = .first p := by rwa [byte_toNat]
  -- the ranges of lead bytes, in the order in which the reader asks for them
  by_cases h1 : b.toNat < 0xC2
  · unfold lead at h
    simp only at h
    by_cases h0 : b.toNat < 0x80
    · rw [if_pos h0] at h
      cases h
    · rw [if_neg h0, if_pos h1] at h
      cases h
  · by_cases h2 : b.toNat < 0xE0
    · rw [lead_two (by omega) h2] at hread
      cases hread
      exact .inl ⟨by omega, h2, rfl⟩
    · by_cases h3 : b.toNat < 0xF0
      · rw [lead_three (by omega) h3] at hread
        cases hread
        exact .inr (.inl ⟨by omega, h3, rfl⟩)
      · by_cases h4 : b.toNat ≤ 0xF4
        · rw [lead_four (by omega) h4] at hread
          cases hread
          exact .inr (.inr ⟨by omega, h4, rfl⟩)
        · unfold lead at h
          simp only at h
          rw [if_neg (by omega), if_neg (by omega), if_neg (by omega), if_neg (by omega),
            if_neg (by omega), if_neg (by omega), if_neg (by omega), if_neg (by omega),
            if_neg (by omega)] at h
          cases h

/-- A byte outside the bounds breaks a sequence off. -/
theorem bounds_of_step {p : Pending} {b : UInt8} (h : (step (some p) b).1.head? ≠ some none) :
    p.low ≤ b.toNat ∧ b.toNat ≤ p.high := by
  by_cases hb : p.low ≤ b.toNat ∧ b.toNat ≤ p.high
  · exact hb
  · refine absurd ?_ h
    rw [step]
    simp only
    rw [if_neg hb]
    rfl

namespace Spells

variable {c : Char} {p : Pending} {bs : List UInt8}

theorem next (hlow : 0x80 ≤ p.low) (hhigh : p.high ≤ 0xBF) (h : Spells c (some p) bs) :
    ∃ m r, bs = byte (0x80 + m) :: r ∧ m < 0x40 ∧ p.low ≤ 0x80 + m ∧ 0x80 + m ≤ p.high ∧
      (p.left ≤ 1 ∧ r = [] ∧ c = Char.ofNat (p.value * 0x40 + m) ∨
        1 < p.left ∧ Spells c (some { left := p.left - 1, value := p.value * 0x40 + m }) r) := by
  -- a byte that breaks nothing off lies within the bounds of the sequence
  have hgo : ∀ b : UInt8, (step (some p) b).1.head? ≠ some none →
      ∃ m, b = byte (0x80 + m) ∧ m < 0x40 ∧ p.low ≤ 0x80 + m ∧ 0x80 + m ≤ p.high := by
    intro b hb
    obtain ⟨h1, h2⟩ := bounds_of_step hb
    have hsum : 0x80 + (b.toNat - 0x80) = b.toNat := by omega
    refine ⟨b.toNat - 0x80, ?_, by omega, by omega, by omega⟩
    rw [hsum, byte_toNat]
  cases h with
  | last h =>
    obtain ⟨m, rfl, hm, h1, h2⟩ := hgo _ (by rw [h]; simp)
    refine ⟨m, [], rfl, hm, h1, h2, ?_⟩
    rw [step_next hm h1 h2] at h
    split at h
    · rename_i hleft
      cases h
      exact .inl ⟨hleft, rfl, rfl⟩
    · cases h
  | more h hr =>
    obtain ⟨m, rfl, hm, h1, h2⟩ := hgo _ (by rw [h]; simp)
    refine ⟨m, _, rfl, hm, h1, h2, ?_⟩
    rw [step_next hm h1 h2] at h
    split at h
    · cases h
    · rename_i hleft
      cases h
      exact .inr ⟨by omega, hr⟩

theorem eq_last (hlow : 0x80 ≤ p.low) (hhigh : p.high ≤ 0xBF) (hleft : p.left = 1)
    (h : Spells c (some p) bs) :
    ∃ m, bs = [byte (0x80 + m)] ∧ m < 0x40 ∧ c = Char.ofNat (p.value * 0x40 + m) := by
  obtain ⟨m, r, rfl, hm, -, -, ⟨-, rfl, rfl⟩ | ⟨hmore, -⟩⟩ := h.next hlow hhigh
  · exact ⟨m, rfl, hm, rfl⟩
  · omega

theorem eq_more (hlow : 0x80 ≤ p.low) (hhigh : p.high ≤ 0xBF) (hleft : 1 < p.left)
    (h : Spells c (some p) bs) :
    ∃ m r, bs = byte (0x80 + m) :: r ∧ m < 0x40 ∧ p.low ≤ 0x80 + m ∧ 0x80 + m ≤ p.high ∧
      Spells c (some { left := p.left - 1, value := p.value * 0x40 + m }) r := by
  obtain ⟨m, r, rfl, hm, h1, h2, ⟨hlast, -, -⟩ | ⟨-, hr⟩⟩ := h.next hlow hhigh
  · omega
  · exact ⟨m, r, rfl, hm, h1, h2, hr⟩

end Spells

variable {b : UInt8} {c : Char} {r : List UInt8}

theorem eq_encodeChar_two (h : 0xC2 ≤ b.toNat) (h' : b.toNat < 0xE0)
    (hr : Spells c (some ⟨1, b.toNat - 0xC0, 0x80, 0xBF⟩) r) : b :: r = encodeChar c := by
  obtain ⟨m, rfl, hm, rfl⟩ := hr.eq_last (Nat.le_refl _) (Nat.le_refl _) rfl
  simp only
  generalize hn : (b.toNat - 0xC0) * 0x40 + m = n
  have hlead : 0xC0 + n / 0x40 = b.toNat := by omega
  have hlast : n % 0x40 = m := by omega
  rw [encodeChar_two (toNat_ofNat (by omega)) (by omega) (by omega), hlead, hlast, byte_toNat]

theorem eq_encodeChar_three (h : 0xE0 ≤ b.toNat) (h' : b.toNat < 0xF0)
    (hr : Spells c (some ⟨2, b.toNat - 0xE0, if b.toNat = 0xE0 then 0xA0 else 0x80,
      if b.toNat = 0xED then 0x9F else 0xBF⟩) r) : b :: r = encodeChar c := by
  obtain ⟨k, r, rfl, hk, hlow, hhigh, hr⟩ := hr.eq_more (by simp only; split <;> omega)
    (by simp only; split <;> omega) (Nat.lt_add_one 1)
  obtain ⟨m, rfl, hm, rfl⟩ := hr.eq_last (Nat.le_refl _) (Nat.le_refl _) rfl
  simp only at hlow hhigh ⊢
  generalize hn : ((b.toNat - 0xE0) * 0x40 + k) * 0x40 + m = n
  -- the bounds of the second byte rule out overlong forms and surrogates
  have hlong : 0x800 ≤ n := by
    split at hlow
    · omega
    · omega
  have hvalid : n < 0xD800 ∨ 0xDFFF < n ∧ n < 0x110000 := by
    split at hhigh
    · omega
    · omega
  have hlead : 0xE0 + n / 0x1000 = b.toNat := by omega
  have hsecond : n / 0x40 % 0x40 = k := by omega
  have hlast : n % 0x40 = m := by omega
  rw [encodeChar_three (toNat_ofNat hvalid) hlong (by omega), hlead, hsecond, hlast, byte_toNat]

theorem eq_encodeChar_four (h : 0xF0 ≤ b.toNat) (h' : b.toNat ≤ 0xF4)
    (hr : Spells c (some ⟨3, b.toNat - 0xF0, if b.toNat = 0xF0 then 0x90 else 0x80,
      if b.toNat = 0xF4 then 0x8F else 0xBF⟩) r) : b :: r = encodeChar c := by
  obtain ⟨j, r, rfl, hj, hlow, hhigh, hr⟩ := hr.eq_more (by simp only; split <;> omega)
    (by simp only; split <;> omega) (Nat.lt_add_left 1 (Nat.lt_add_one 1))
  obtain ⟨k, r, rfl, hk, -, -, hr⟩ := hr.eq_more (Nat.le_refl _) (Nat.le_refl _) (Nat.lt_add_one 1)
  obtain ⟨m, rfl, hm, rfl⟩ := hr.eq_last (Nat.le_refl _) (Nat.le_refl _) rfl
  simp only at hlow hhigh ⊢
  generalize hn : (((b.toNat - 0xF0) * 0x40 + j) * 0x40 + k) * 0x40 + m = n
  -- the bounds of the second byte rule out overlong forms and what lies beyond the last character
  have hlong : 0x10000 ≤ n := by
    split at hlow
    · omega
    · omega
  have hvalid : n < 0x110000 := by
    split at hhigh
    · omega
    · omega
  have hlead : 0xF0 + n / 0x40000 = b.toNat := by omega
  have hsecond : n / 0x1000 % 0x40 = j := by omega
  have hthird : n / 0x40 % 0x40 = k := by omega
  have hlast : n % 0x40 = m := by omega
  rw [encodeChar_four (toNat_ofNat (.inr ⟨by omega, hvalid⟩)) hlong, hlead, hsecond, hthird, hlast,
    byte_toNat]

/-- **Only the bytes of a character spell it.** -/
theorem eq_encodeChar_of_spells {bs : List UInt8} (h : Spells c none bs) : bs = encodeChar c := by
  cases h with
  | @last _ b h =>
    rw [step] at h
    cases hlead : lead b with
    | whole d =>
      rw [hlead] at h
      cases h
      obtain ⟨hb, rfl⟩ := lead_eq_whole hlead
      have hc : (Char.ofNat b.toNat).toNat = b.toNat := toNat_ofNat (.inl (by omega))
      rw [encodeChar_one (by rw [hc]; exact hb), hc, byte_toNat]
    | first p =>
      rw [hlead] at h
      cases h
    | invalid =>
      rw [hlead] at h
      cases h
  | @more _ b p r h hr =>
    -- more bytes follow, so the first one opened a sequence
    have hlead : lead b = .first p := by
      rw [step] at h
      cases hlead : lead b with
      | whole d =>
        rw [hlead] at h
        cases h
      | first p =>
        rw [hlead] at h
        cases h
        rfl
      | invalid =>
        rw [hlead] at h
        cases h
    rcases lead_eq_first hlead with ⟨h1, h2, rfl⟩ | ⟨h1, h2, rfl⟩ | ⟨h1, h2, rfl⟩
    · exact eq_encodeChar_two h1 h2 hr
    · exact eq_encodeChar_three h1 h2 hr
    · exact eq_encodeChar_four h1 h2 hr

/-! ### What is read as a text -/

/-- One byte completes a character, goes on with a sequence, or shows that there is none. -/
theorem step_cases (q : Option Pending) (b : UInt8) :
    (∃ c, step q b = ([some c], none)) ∨ (∃ p, step q b = ([], some p)) ∨
      (step q b).1.head? = some none := by
  -- where no sequence is open, the lead byte decides
  have hstart : ∀ b, (∃ c, step none b = ([some c], none)) ∨ (∃ p, step none b = ([], some p)) ∨
      (step none b).1.head? = some none := by
    intro b
    rw [step]
    cases lead b with
    | whole c => exact .inl ⟨c, rfl⟩
    | first p => exact .inr (.inl ⟨p, rfl⟩)
    | invalid => exact .inr (.inr rfl)
  cases q with
  | none => exact hstart b
  | some p =>
    by_cases hb : p.low ≤ b.toNat ∧ b.toNat ≤ p.high
    · rw [step]
      simp only
      rw [if_pos hb]
      split
      · exact .inl ⟨_, rfl⟩
      · exact .inr (.inl ⟨_, rfl⟩)
    · refine .inr (.inr ?_)
      rw [step]
      simp only
      rw [if_neg hb]
      rfl

theorem exists_spells {q : Option Pending} {bs : List UInt8} {cs : List (Option Char)}
    (h : piecesFrom q bs = some c :: cs) :
    ∃ front back, bs = front ++ back ∧ Spells c q front ∧ piecesFrom none back = cs := by
  induction bs generalizing q with
  | nil =>
    rw [piecesFrom] at h
    split at h
    · cases h
    · cases h
  | cons b r ih =>
    rw [piecesFrom] at h
    -- the byte completes the character, goes on with it, or shows that there is none
    rcases step_cases q b with ⟨d, hstep⟩ | ⟨p, hstep⟩ | hstep
    · rw [hstep] at h
      cases h
      exact ⟨[b], r, rfl, .last hstep, rfl⟩
    · rw [hstep] at h
      obtain ⟨front, back, rfl, hfront, hback⟩ := ih h
      exact ⟨b :: front, back, rfl, .more hstep hfront, hback⟩
    · have hhead := congrArg List.head? h
      rw [List.head?_append, hstep] at hhead
      cases hhead

/-- Every byte leaves a piece, at the latest when the sequence it belongs to ends. -/
theorem eq_nil_of_piecesFrom {q : Option Pending} {bs : List UInt8} (h : piecesFrom q bs = []) :
    q = none ∧ bs = [] := by
  induction bs generalizing q with
  | nil =>
    cases q with
    | none => exact ⟨rfl, rfl⟩
    | some p => cases h
  | cons b r ih =>
    rw [piecesFrom] at h
    -- any byte leaves a piece, now or when its sequence ends
    rcases step_cases q b with ⟨d, hstep⟩ | ⟨p, hstep⟩ | hstep
    · rw [hstep] at h
      cases h
    · rw [hstep] at h
      cases (ih h).1
    · rw [(List.append_eq_nil_iff.mp h).1] at hstep
      cases hstep

/-- Bytes that are read as characters are the bytes of these characters. -/
theorem eq_flatMap_of_pieces {bs : List UInt8} {s : List Char} (h : pieces bs = s.map some) :
    bs = s.flatMap encodeChar := by
  rw [pieces] at h
  induction s generalizing bs with
  | nil =>
    rw [(eq_nil_of_piecesFrom h).2, List.flatMap_nil]
  | cons c s ih =>
    obtain ⟨front, back, rfl, hfront, hback⟩ := exists_spells h
    rw [List.flatMap_cons, eq_encodeChar_of_spells hfront, ih hback]

theorem eq_map_some {α : Type} {os : List (Option α)} {as : List α} (h : os.mapM id = some as) :
    os = as.map some := by
  induction os generalizing as with
  | nil =>
    cases h
    rfl
  | cons o os ih =>
    rw [List.mapM_cons] at h
    cases o with
    | none => cases h
    | some a =>
      simp only [id_eq, Option.bind_eq_bind, Option.bind_some] at h
      obtain ⟨bs, hbs, h⟩ := Option.bind_eq_some_iff.mp h
      cases h
      rw [ih hbs, List.map_cons]

/-- **Bytes are read as a text exactly if they are its bytes.** -/
theorem decode?_eq_some_iff {bs : List UInt8} {s : String} : decode? bs = some s ↔ encode s = bs := by
  constructor
  · intro h
    obtain ⟨cs, hcs, rfl⟩ := Option.map_eq_some_iff.mp h
    rw [encode, String.toList_ofList]
    exact (eq_flatMap_of_pieces (eq_map_some hcs)).symm
  · rintro rfl
    exact decode?_encode s

/-! ### The bytes of a string -/

theorem encodeChar_eq_utf8EncodeChar (c : Char) : encodeChar c = String.utf8EncodeChar c := by
  have hvalid := toNat_valid c
  have hn : c.val.toNat = c.toNat := rfl
  unfold String.utf8EncodeChar
  simp only
  rw [hn]
  -- as many bytes as the range of the character takes
  by_cases h1 : c.toNat < 0x80
  · rw [encodeChar_one h1, if_pos (by omega), byte]
  · by_cases h2 : c.toNat < 0x800
    · have hlead : 0xC0 + c.toNat / 0x40 = c.toNat / 64 % 32 + 192 := by omega
      rw [encodeChar_two rfl (by omega) h2, if_neg (by omega), if_pos (by omega), byte, byte, hlead,
        Nat.add_comm 0x80]
    · by_cases h3 : c.toNat < 0x10000
      · have hlead : 0xE0 + c.toNat / 0x1000 = c.toNat / 4096 % 16 + 224 := by omega
        rw [encodeChar_three rfl (by omega) h3, if_neg (by omega), if_neg (by omega),
          if_pos (by omega), byte, byte, byte, hlead, Nat.add_comm 0x80, Nat.add_comm 0x80]
      · have hlead : 0xF0 + c.toNat / 0x40000 = c.toNat / 262144 % 8 + 240 := by omega
        rw [encodeChar_four rfl (by omega), if_neg (by omega), if_neg (by omega),
          if_neg (by omega), byte, byte, byte, byte, hlead, Nat.add_comm 0x80, Nat.add_comm 0x80,
          Nat.add_comm 0x80]

/-- These are the bytes that a string is made of. -/
theorem encode_eq_toUTF8 (s : String) : encode s = s.toUTF8.data.toList := by
  have hbytes : s.toUTF8 = s.toList.utf8Encode := String.utf8Encode_toList.symm
  have hchars : encodeChar = String.utf8EncodeChar := funext encodeChar_eq_utf8EncodeChar
  rw [hbytes, List.utf8Encode, List.data_toByteArray, encode, hchars]

end DeliveryWatch.Utf8
