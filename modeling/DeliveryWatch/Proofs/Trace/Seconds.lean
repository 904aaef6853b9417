/-
Whole seconds of a distance, which are counted through a binary fraction of 53 digits.

* `nearestQuotient_mono`, `two_mul_nearestQuotient_mul_le` — a quotient that is rounded to the nearest
  whole number keeps the order, and is above the quotient by one half at most;
* `wholeSeconds_eq_div` — below `2 ^ 34` seconds, and for whole seconds, no fraction is carried up;
* `wholeSeconds_mono` — a longer distance has no fewer whole seconds.
-/
import DeliveryWatch.Trace.Delay
import Mathlib.Algebra.Group.Nat.Defs
import Mathlib.Data.Nat.Log

namespace DeliveryWatch.Trace

/-! ### Rounded quotients -/

section Quotients

variable {a b c : Nat}

theorem div_le_nearestQuotient (a b : Nat) : a / b ≤ nearestQuotient a b := by
  unfold nearestQuotient
  simp only
  repeat' split
  all_goals omega

theorem nearestQuotient_le (a b : Nat) : nearestQuotient a b ≤ a / b + 1 := by
  unfold nearestQuotient
  simp only
  repeat' split
  all_goals omega

/-- The rounded quotient is above the quotient by one half at most. -/
theorem two_mul_nearestQuotient_mul_le (a b : Nat) : 2 * (nearestQuotient a b * b) ≤ 2 * a + b := by
  have hdiv : a / b * b + a % b = a := by
    rw [Nat.mul_comm]
    exact Nat.div_add_mod a b
  have hup : 2 * ((a / b + 1) * b) = 2 * (a / b * b) + 2 * b := by
    rw [Nat.add_mul]
    omega
  unfold nearestQuotient
  simp only
  repeat' split
  all_goals omega

theorem nearestQuotient_mono (h : a ≤ b) : nearestQuotient a c ≤ nearestQuotient b c := by
  have hdiv : a / c ≤ b / c := Nat.div_le_div_right h
  rcases Nat.lt_or_eq_of_le hdiv with hlt | heq
  · calc nearestQuotient a c ≤ a / c + 1 := nearestQuotient_le a c
      _ ≤ b / c := hlt
      _ ≤ nearestQuotient b c := div_le_nearestQuotient b c
  · -- the same quotient, so that the remainders decide
    have hmod : a % c ≤ b % c := by
      have ha := Nat.div_add_mod a c
      have hb := Nat.div_add_mod b c
      rw [heq] at ha
      omega
    unfold nearestQuotient
    simp only [heq]
    repeat' split
    all_goals omega

end Quotients

/-! ### Whole seconds -/

variable {d e : Nat}

/-- The fineness of the rounding at a number of seconds: a second is cut into so many parts. -/
def fineness (seconds : Nat) : Nat := Nat.pow 2 (52 - Nat.log2 seconds)

theorem fineness_pos (s : Nat) : 0 < fineness s := Nat.pow_pos (by decide)

theorem wholeSeconds_eq (d : Nat) : wholeSeconds d
    = nearestQuotient (d * fineness (d / 1000000)) 1000000 / fineness (d / 1000000) := rfl

/-- A part of a second is less than two microseconds as long as there are fewer than `2 ^ 34` seconds. -/
theorem lt_two_mul_fineness {s : Nat} (h : s < 2 ^ 34) : 1000000 < 2 * fineness s := by
  have hlog : Nat.log2 s ≤ 33 := by
    by_cases hs : s = 0
    · rw [hs]
      decide
    · exact Nat.le_of_lt_succ ((Nat.log2_lt hs).mpr h)
  have hpow : 2 ^ 19 ≤ fineness s := Nat.pow_le_pow_right (by decide) (by omega)
  calc 1000000 < 2 * 2 ^ 19 := by decide
    _ ≤ 2 * fineness s := Nat.mul_le_mul_left 2 hpow

theorem div_le_wholeSeconds (d : Nat) : d / 1000000 ≤ wholeSeconds d := by
  rw [wholeSeconds_eq, Nat.le_div_iff_mul_le (fineness_pos _)]
  generalize fineness (d / 1000000) = k
  have hfloor : d / 1000000 * k ≤ d * k / 1000000 := by
    rw [Nat.mul_comm, Nat.mul_comm d]
    exact Nat.mul_div_le_mul_div_assoc k d 1000000
  exact hfloor.trans (div_le_nearestQuotient _ _)

/-- The rounding adds one second at most. -/
theorem wholeSeconds_le (d : Nat) : wholeSeconds d ≤ d / 1000000 + 1 := by
  have hpos := fineness_pos (d / 1000000)
  rw [wholeSeconds_eq]
  generalize fineness (d / 1000000) = k at hpos
  have hbelow : d * k / 1000000 < (d / 1000000 + 1) * k := by
    rw [Nat.div_lt_iff_lt_mul (by decide), Nat.mul_right_comm]
    exact Nat.mul_lt_mul_of_pos_right (by omega) hpos
  have hround := nearestQuotient_le (d * k) 1000000
  refine Nat.div_le_of_le_mul ?_
  rw [Nat.mul_comm k]
  omega

/-- The rounding carries no fraction up to the next second if it is finer than the microseconds that
are missing there. -/
theorem wholeSeconds_eq_div_of_lt
    (h : 1000000 < 2 * ((d / 1000000 + 1) * 1000000 - d) * fineness (d / 1000000)) :
    wholeSeconds d = d / 1000000 := by
  refine Nat.le_antisymm ?_ (div_le_wholeSeconds d)
  have hpos := fineness_pos (d / 1000000)
  rw [wholeSeconds_eq]
  refine Nat.le_of_lt_succ ((Nat.div_lt_iff_lt_mul hpos).mpr ?_)
  generalize fineness (d / 1000000) = k at h hpos
  -- at the next second the quotient would have been rounded up by more than one half
  by_contra hge
  rw [Nat.not_lt] at hge
  have hround := two_mul_nearestQuotient_mul_le (d * k) 1000000
  have hnext : (d / 1000000 + 1) * 1000000 * k ≤ nearestQuotient (d * k) 1000000 * 1000000 := by
    rw [Nat.mul_right_comm]
    exact Nat.mul_le_mul_right _ hge
  rw [Nat.mul_assoc, Nat.sub_mul] at h
  omega

/-- **Below `2 ^ 34` seconds, and for whole seconds, nothing is rounded**: the fraction is dropped. -/
theorem wholeSeconds_eq_div (h : d < 2 ^ 34 * 1000000 ∨ d % 1000000 = 0) :
    wholeSeconds d = d / 1000000 := by
  refine wholeSeconds_eq_div_of_lt ?_
  have hpos := fineness_pos (d / 1000000)
  rcases h with h | h
  · have hs : d / 1000000 < 2 ^ 34 := (Nat.div_lt_iff_lt_mul (by decide)).mpr h
    have hmissing : 1 ≤ (d / 1000000 + 1) * 1000000 - d := by omega
    calc 1000000 < 2 * fineness (d / 1000000) := lt_two_mul_fineness hs
      _ ≤ 2 * ((d / 1000000 + 1) * 1000000 - d) * fineness (d / 1000000) :=
        Nat.mul_le_mul_right _ (by omega)
  · have hmissing : (d / 1000000 + 1) * 1000000 - d = 1000000 := by omega
    rw [hmissing]
    omega

theorem wholeSeconds_mono (h : d ≤ e) : wholeSeconds d ≤ wholeSeconds e := by
  have hdiv : d / 1000000 ≤ e / 1000000 := Nat.div_le_div_right h
  rcases Nat.lt_or_eq_of_le hdiv with hlt | heq
  · calc wholeSeconds d ≤ d / 1000000 + 1 := wholeSeconds_le d
      _ ≤ e / 1000000 := hlt
      _ ≤ wholeSeconds e := div_le_wholeSeconds e
  · -- within the same second both are rounded to the same parts
    rw [wholeSeconds_eq, wholeSeconds_eq, heq]
    exact Nat.div_le_div_right (nearestQuotient_mono (Nat.mul_le_mul_right _ h))

example : wholeSeconds (2 ^ 34 * 1000000 + 999999) = 2 ^ 34 + 1 := by decide +kernel

end DeliveryWatch.Trace
