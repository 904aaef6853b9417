/-
UTF-8 is read back.

* `Spells` — bytes that complete one character from where a reader stands, byte by byte;
* `spells_encodeChar` — the bytes of a character spell it;
* `decode?_encode` — the bytes of a text are read as this text;
* `pieces_take_encodeChar` — the bytes of a character but the last ones are no character.
-/
import DeliveryWatch.Bytes.Utf8

namespace DeliveryWatch.Utf8

/-- The bytes that complete the character `c` from where a reader stands. Every byte but the last leaves
a sequence pending. -/
inductive Spells (c : Char) : Option Pending → List UInt8 → Prop
  | last {q : Option Pending} {b : UInt8} (h : step q b = ([some c], none)) : Spells c q [b]
  | more {q : Option Pending} {b : UInt8} {p : Pending} {r : List UInt8}
    (h : step q b = ([], some p)) (hr : Spells c (some p) r) : Spells c q (b :: r)

namespace Spells

variable {c : Char} {q : Option Pending} {bs : List UInt8}

theorem ne_nil (h : Spells c q bs) : bs ≠ [] := by
  cases h with
  | last _ => exact List.cons_ne_nil _ _
  | more _ _ => exact List.cons_ne_nil _ _

/-- Behind a character the reader starts anew. -/
theorem piecesFrom_append (h : Spells c q bs) (r : List UInt8) :
    piecesFrom q (bs ++ r) = some c :: piecesFrom none r := by
  induction h with
  | last h =>
    rw [List.singleton_append, piecesFrom, h]
    rfl
  | more h _ ih =>
    rw [List.cons_append, piecesFrom, h]
    exact ih

/-- A sequence that breaks off is one piece that is no character. -/
theorem piecesFrom_take (h : Spells c q bs) {n : Nat} (hn : n < bs.length)
    (hq : q.isSome = true ∨ 0 < n) : piecesFrom q (bs.take n) = [none] := by
  -- on the bytes that are left; a sequence is pending before all of them but perhaps the first
  induction h generalizing n with
  | last h =>
    have hzero : n = 0 := by
      simp only [List.length_singleton] at hn
      omega
    subst hzero
    have hsome : _ := hq.resolve_right (Nat.lt_irrefl 0)
    rw [List.take_zero, piecesFrom, if_pos hsome]
  | more h _ ih =>
    cases n with
    | zero =>
      have hsome : _ := hq.resolve_right (Nat.lt_irrefl 0)
      rw [List.take_zero, piecesFrom, if_pos hsome]
    | succ n =>
      rw [List.take_succ_cons, piecesFrom, h]
      exact ih (by simpa using hn) (.inl rfl)

end Spells

/-! ### The bytes of one character -/

theorem toNat_byte {n : Nat} (h : n < 256) : (byte n).toNat = n := by
  rw [byte]
  rw [UInt8.toNat_ofNat']
  exact Nat.mod_eq_of_lt h

theorem step_next {p : Pending} {m : Nat} (hm : m < 0x40) (hlow : p.low ≤ 0x80 + m)
    (hhigh : 0x80 + m ≤ p.high) :
    step (some p) (byte (0x80 + m))
      = if p.left ≤ 1 then ([some (Char.ofNat (p.value * 0x40 + m))], none)
        else ([], some { left := p.left - 1, value := p.value * 0x40 + m }) := by
  have hbyte : (byte (0x80 + m)).toNat = 0x80 + m := toNat_byte (by omega)
  have hmod : (0x80 + m) % 0x40 = m := by omega
  rw [step]
  simp only
  rw [hbyte, if_pos ⟨hlow, hhigh⟩, hmod]

theorem spells_last {c : Char} {p : Pending} {m : Nat} (hm : m < 0x40) (hlow : p.low ≤ 0x80 + m)
    (hhigh : 0x80 + m ≤ p.high) (hleft : p.left = 1) (hvalue : p.value * 0x40 + m = c.toNat) :
    Spells c (some p) [byte (0x80 + m)] := by
  refine .last ?_
  rw [step_next hm hlow hhigh, if_pos (by omega), hvalue, Char.ofNat_toNat]

theorem spells_more {c : Char} {p : Pending} {m : Nat} {r : List UInt8} (hm : m < 0x40)
    (hlow : p.low ≤ 0x80 + m) (hhigh : 0x80 + m ≤ p.high) (hleft : 1 < p.left)
    (hr : Spells c (some { left := p.left - 1, value := p.value * 0x40 + m }) r) :
    Spells c (some p) (byte (0x80 + m) :: r) := by
  refine .more ?_ hr
  rw [step_next hm hlow hhigh, if_neg (by omega)]

theorem spells_lead {c : Char} {b : UInt8} {p : Pending} {r : List UInt8} (h : lead b = .first p)
    (hr : Spells c (some p) r) : Spells c none (b :: r) := by
  refine .more ?_ hr
  rw [step]
  rw [h]

theorem lead_two {n : Nat} (h : 0xC2 ≤ n) (h' : n < 0xE0) :
    lead (byte n) = .first { left := 1, value := n - 0xC0 } := by
  unfold lead
  simp only
  rw [toNat_byte (by omega), if_neg (by omega), if_neg (by omega), if_pos h']

/-- The second byte of three rules out overlong forms and surrogates. -/
theorem lead_three {n : Nat} (h : 0xE0 ≤ n) (h' : n < 0xF0) :
    lead (byte n) = .first { left := 2, value := n - 0xE0, low := if n = 0xE0 then 0xA0 else 0x80,
                             high := if n = 0xED then 0x9F else 0xBF } := by
  unfold lead
  simp only
  rw [toNat_byte (by omega), if_neg (by omega), if_neg (by omega), if_neg (by omega)]
  by_cases h0 : n = 0xE0
  · subst h0
    rfl
  · by_cases hd : n = 0xED
    · subst hd
      rfl
    · rw [if_neg h0, if_neg hd, if_pos h', if_neg h0, if_neg hd]

/-- The second byte of four rules out overlong forms and what lies beyond the last character. -/
theorem lead_four {n : Nat} (h : 0xF0 ≤ n) (h' : n ≤ 0xF4) :
    lead (byte n) = .first { left := 3, value := n - 0xF0, low := if n = 0xF0 then 0x90 else 0x80,
                             high := if n = 0xF4 then 0x8F else 0xBF } := by
  unfold lead
  simp only
  rw [toNat_byte (by omega), if_neg (by omega), if_neg (by omega), if_neg (by omega),
    if_neg (by omega), if_neg (by omega), if_neg (by omega)]
  by_cases h0 : n = 0xF0
  · subst h0
    rfl
  · by_cases h4 : n = 0xF4
    · subst h4
      rfl
    · rw [if_neg h0, if_pos (by omega), if_neg h0, if_neg h4]

/-- A character is no surrogate, and none of those beyond the last one. -/
theorem toNat_valid (c : Char) : c.toNat < 0xD800 ∨ 0xDFFF < c.toNat ∧ c.toNat < 0x110000 :=
  c.valid

theorem spells_two {c : Char} {n : Nat} (hc : c.toNat = n) (h : 0x80 ≤ n) (h' : n < 0x800) :
    Spells c none [byte (0xC0 + n / 0x40), byte (0x80 + n % 0x40)] := by
  refine spells_lead (lead_two (by omega) (by omega)) (spells_last (by omega) ?_ ?_ rfl ?_)
  · show 0x80 ≤ _
    omega
  · show _ ≤ 0xBF
    omega
  · show (0xC0 + n / 0x40 - 0xC0) * 0x40 + n % 0x40 = c.toNat
    omega

theorem spells_three {c : Char} {n : Nat} (hc : c.toNat = n) (h : 0x800 ≤ n) (h' : n < 0x10000) :
    Spells c none
      [byte (0xE0 + n / 0x1000), byte (0x80 + n / 0x40 % 0x40), byte (0x80 + n % 0x40)] := by
  -- surrogates lie between the first two rules of the second byte, so it passes both
  have hvalid := toNat_valid c
  refine spells_lead (lead_three (by omega) (by omega))
    (spells_more (by omega) ?_ ?_ (Nat.lt_add_one 1) (spells_last (by omega) ?_ ?_ rfl ?_))
  · show (if _ then 0xA0 else 0x80) ≤ _
    split
    · omega
    · omega
  · show _ ≤ if _ then 0x9F else 0xBF
    split
    · omega
    · omega
  · show 0x80 ≤ _
    omega
  · show _ ≤ 0xBF
    omega
  · show ((0xE0 + n / 0x1000 - 0xE0) * 0x40 + n / 0x40 % 0x40) * 0x40 + n % 0x40 = c.toNat
    omega

theorem spells_four {c : Char} {n : Nat} (hc : c.toNat = n) (h : 0x10000 ≤ n) :
    Spells c none
      [byte (0xF0 + n / 0x40000), byte (0x80 + n / 0x1000 % 0x40), byte (0x80 + n / 0x40 % 0x40),
        byte (0x80 + n % 0x40)] := by
  -- the last character bounds the second byte after the greatest lead byte
  have hvalid := toNat_valid c
  refine spells_lead (lead_four (by omega) (by omega))
    (spells_more (by omega) ?_ ?_ (Nat.lt_of_sub_eq_succ rfl)
      (spells_more (by omega) ?_ ?_ (Nat.lt_add_one 1) (spells_last (by omega) ?_ ?_ rfl ?_)))
  · show (if _ then 0x90 else 0x80) ≤ _
    split
    · omega
    · omega
  · show _ ≤ if _ then 0x8F else 0xBF
    split
    · omega
    · omega
  · show 0x80 ≤ _
    omega
  · show _ ≤ 0xBF
    omega
  · show 0x80 ≤ _
    omega
  · show _ ≤ 0xBF
    omega
  · show (((0xF0 + n / 0x40000 - 0xF0) * 0x40 + n / 0x1000 % 0x40) * 0x40 + n / 0x40 % 0x40) * 0x40
      + n % 0x40 = c.toNat
    omega

/-- **The bytes of a character spell it.** -/
theorem spells_encodeChar (c : Char) : Spells c none (encodeChar c) := by
  unfold encodeChar
  simp only
  -- one byte is the character itself, and in longer forms a lead byte opens the sequence
  split
  · rename_i h1
    have hlead : lead (byte c.toNat) = .whole c := by
      unfold lead
      simp only
      rw [toNat_byte (by omega), if_pos h1, Char.ofNat_toNat]
    refine .last ?_
    rw [step]
    rw [hlead]
  · rename_i h1
    split
    · exact spells_two rfl (by omega) (by assumption)
    · split
      · exact spells_three rfl (by omega) (by assumption)
      · exact spells_four rfl (by omega)

/-! ### Texts -/

theorem pieces_flatMap_encodeChar (s : List Char) : pieces (s.flatMap encodeChar) = s.map some := by
  rw [pieces]
  induction s with
  | nil => rfl
  | cons c r ih => rw [List.flatMap_cons, (spells_encodeChar c).piecesFrom_append, ih, List.map_cons]

theorem mapM_some (s : List Char) : (s.map some).mapM id = some s := by
  induction s with
  | nil => rfl
  | cons c r ih =>
    rw [List.map_cons, List.mapM_cons, ih]
    rfl

/-- **The bytes of a text are read as this text.** -/
theorem decode?_encode (s : String) : decode? (encode s) = some s := by
  rw [decode?, encode]
  rw [pieces_flatMap_encodeChar, mapM_some, Option.map_some, String.ofList_toList]

/-- The bytes of a character without the last ones are no character. -/
theorem pieces_take_encodeChar (c : Char) {n : Nat} (h0 : 0 < n) (hn : n < (encodeChar c).length) :
    pieces ((encodeChar c).take n) = [none] :=
  (spells_encodeChar c).piecesFrom_take hn (.inr h0)

theorem length_encodeChar (c : Char) : (encodeChar c).length ∈ [1, 2, 3, 4] := by
  unfold encodeChar
  simp only
  split
  · simp
  · split
    · simp
    · split
      · simp
      · simp

end DeliveryWatch.Utf8
