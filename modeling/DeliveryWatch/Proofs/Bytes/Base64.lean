/-
Base64 is read back.

* `IsSign` — the letters and the padding, which bytes are written in (`isSign_of_mem_encode`);
* `exists_letter_encode` — the letters of some bytes do not start with padding;
* `decode?_encode` — the letters of a row of bytes are read as these bytes, whatever padding stands
  behind them.
-/
import DeliveryWatch.Bytes.Base64

namespace DeliveryWatch.Base64

/-! ### Letters -/

theorem value?_letter {n : Nat} (h : n < 64) : value? (letter n) = some n := by
  have hall : ∀ n < 64, value? (letter n) = some n := by decide +kernel
  exact hall n h

theorem letter_ne_pad {n : Nat} (h : n < 64) : letter n ≠ '=' := by
  have hall : ∀ n < 64, letter n ≠ '=' := by decide +kernel
  exact hall n h

/-- What a sign of base64 looks like. -/
def IsSign (c : Char) : Prop := c = '=' ∨ ∃ n < 64, c = letter n

theorem isSign_letter {n : Nat} (h : n < 64) : IsSign (letter n) := .inr ⟨n, h, rfl⟩

theorem isSign_pad : IsSign '=' := .inl rfl

/-- The signs of a row of bytes. -/
theorem isSign_of_mem_encode {bs : List UInt8} {c : Char} (h : c ∈ encode bs) : IsSign c := by
  -- in groups of three bytes, the last of which may be shorter
  induction bs using encode.induct with
  | case1 => cases h
  | case2 a =>
    have ha : a.toNat < 256 := a.toNat_lt
    simp only [encode, List.mem_cons, List.not_mem_nil, or_false] at h
    rcases h with rfl | rfl | rfl | rfl
    · exact isSign_letter (by omega)
    · exact isSign_letter (by omega)
    · exact isSign_pad
    · exact isSign_pad
  | case3 a b =>
    have ha : a.toNat < 256 := a.toNat_lt
    have hb : b.toNat < 256 := b.toNat_lt
    simp only [encode, List.mem_cons, List.not_mem_nil, or_false] at h
    rcases h with rfl | rfl | rfl | rfl
    · exact isSign_letter (by omega)
    · exact isSign_letter (by omega)
    · exact isSign_letter (by omega)
    · exact isSign_pad
  | case4 a b c' r ih =>
    have ha : a.toNat < 256 := a.toNat_lt
    have hb : b.toNat < 256 := b.toNat_lt
    have hc : c'.toNat < 256 := c'.toNat_lt
    simp only [encode, List.mem_cons] at h
    rcases h with rfl | rfl | rfl | rfl | h
    · exact isSign_letter (by omega)
    · exact isSign_letter (by omega)
    · exact isSign_letter (by omega)
    · exact isSign_letter (by omega)
    · exact ih h

theorem exists_letter_encode {bs : List UInt8} (h : bs ≠ []) :
    ∃ n r, n < 64 ∧ encode bs = letter n :: r := by
  induction bs using encode.induct with
  | case1 => exact absurd rfl h
  | case2 a =>
    have ha : a.toNat < 256 := a.toNat_lt
    exact ⟨_, _, by omega, rfl⟩
  | case3 a b =>
    have ha : a.toNat < 256 := a.toNat_lt
    have hb : b.toNat < 256 := b.toNat_lt
    exact ⟨_, _, by omega, rfl⟩
  | case4 a b c r _ =>
    have ha : a.toNat < 256 := a.toNat_lt
    have hb : b.toNat < 256 := b.toNat_lt
    have hc : c.toNat < 256 := c.toNat_lt
    exact ⟨_, _, by omega, rfl⟩

/-! ### Reading back -/

theorem letters_letter {n : Nat} (h : n < 64) (count pads : Nat) (r : List Char) :
    letters count pads (letter n :: r) = n :: letters ((count + 1) % 4) 0 r := by
  rw [letters, if_neg (letter_ne_pad h), value?_letter h]

/-- Padding has no meaning between groups. -/
theorem letters_pads (n : Nat) : letters 0 0 (List.replicate n '=') = [] := by
  induction n with
  | zero => rfl
  | succ n ih => exact ih

theorem bytes?_two (a : UInt8) :
    bytes? [a.toNat * 16 / 64, a.toNat * 16 % 64] = some [a] := by
  have hn : a.toNat * 16 / 64 * 64 + a.toNat * 16 % 64 = a.toNat * 16 := by omega
  have ha : a.toNat * 16 / 16 = a.toNat := by omega
  rw [bytes?, hn, ha, UInt8.ofNat_toNat]

theorem bytes?_three (a b : UInt8) {n : Nat} (hn : n = (a.toNat * 256 + b.toNat) * 4) :
    bytes? [n / 4096, n / 64 % 64, n % 64] = some [a, b] := by
  have hb : b.toNat < 256 := b.toNat_lt
  have hsum : (n / 4096 * 64 + n / 64 % 64) * 64 + n % 64 = n := by omega
  have h1 : n / 1024 = a.toNat := by omega
  have h2 : n / 4 % 256 = b.toNat := by omega
  rw [bytes?]
  simp only [hsum]
  rw [h1, h2, UInt8.ofNat_toNat, UInt8.ofNat_toNat]

theorem bytes?_four (a b c : UInt8) (r : List Nat) {n : Nat}
    (hn : n = (a.toNat * 256 + b.toNat) * 256 + c.toNat) :
    bytes? (n / 262144 :: n / 4096 % 64 :: n / 64 % 64 :: n % 64 :: r)
      = (bytes? r).map fun bs => a :: b :: c :: bs := by
  have hb : b.toNat < 256 := b.toNat_lt
  have hc : c.toNat < 256 := c.toNat_lt
  have hsum : ((n / 262144 * 64 + n / 4096 % 64) * 64 + n / 64 % 64) * 64 + n % 64 = n := by omega
  have h1 : n / 65536 = a.toNat := by omega
  have h2 : n / 256 % 256 = b.toNat := by omega
  have h3 : n % 256 = c.toNat := by omega
  rw [bytes?]
  simp only [hsum]
  rw [h1, h2, h3, UInt8.ofNat_toNat, UInt8.ofNat_toNat, UInt8.ofNat_toNat]

/-- **The letters of a row of bytes are read as these bytes**, also with more padding behind them. -/
theorem decode?_encode (bs : List UInt8) (pads : Nat) :
    decode? (encode bs ++ List.replicate pads '=') = some bs := by
  rw [decode?]
  -- by the groups of three bytes that are written; after four letters the reader counts from zero again
  induction bs using encode.induct with
  | case1 =>
    show bytes? (letters 0 0 (List.replicate pads '=')) = _
    rw [letters_pads]
    rfl
  | case2 a =>
    have ha : a.toNat < 256 := a.toNat_lt
    simp only [encode, List.cons_append, List.nil_append]
    rw [letters_letter (by omega), letters_letter (by omega)]
    exact bytes?_two a
  | case3 a b =>
    have ha : a.toNat < 256 := a.toNat_lt
    have hb : b.toNat < 256 := b.toNat_lt
    simp only [encode, List.cons_append, List.nil_append]
    rw [letters_letter (by omega), letters_letter (by omega), letters_letter (by omega)]
    exact bytes?_three a b rfl
  | case4 a b c r ih =>
    have ha : a.toNat < 256 := a.toNat_lt
    have hb : b.toNat < 256 := b.toNat_lt
    have hc : c.toNat < 256 := c.toNat_lt
    simp only [encode, List.cons_append]
    rw [letters_letter (by omega), letters_letter (by omega), letters_letter (by omega),
      letters_letter (by omega)]
    -- the group is read, and what is left is the rest of the bytes
    show bytes? (_ :: _ :: _ :: _ :: letters 0 0 _) = _
    rw [bytes?_four a b c _ rfl, ih]
    rfl

end DeliveryWatch.Base64
