/-
Times in the ledger are texts, not numbers.

* `numberOfText?_of_dash` — digits, a dash and more make no number;
* `numberOfText?_ledgerText` — so a column of times keeps the text of a time as it is.
-/
import DeliveryWatch.Database.Value
import DeliveryWatch.Proofs.Text.Blank
import DeliveryWatch.Time.Basic

namespace DeliveryWatch

open Database Text

theorem Text.exists_digits_zeroFilled (width n : Nat) :
    ∃ c ds, (zeroFilled width n).toList = c :: ds ∧ ∀ d ∈ c :: ds, Database.isDigit d = true := by
  have hall : ∀ d ∈ (zeroFilled width n).toList, Database.isDigit d = true := by
    intro d hd
    rw [zeroFilled] at hd
    rw [String.toList_ofList] at hd
    -- zeros in front, then the digits of the number
    rcases List.mem_append.mp hd with hd | hd
    · rw [List.eq_of_mem_replicate hd]
      decide
    · have := Nat.isDigit_of_mem_toDigits (by decide) (by decide) hd
      rw [Char.isDigit] at this
      rw [Bool.and_eq_true, decide_eq_true_eq, decide_eq_true_eq] at this
      rw [Database.isDigit]
      rw [Bool.and_eq_true, decide_eq_true_eq, decide_eq_true_eq]
      exact this
  cases hz : (zeroFilled width n).toList with
  | nil =>
    rw [zeroFilled] at hz
    rw [String.toList_ofList, List.append_eq_nil_iff] at hz
    exact absurd hz.2 Nat.toDigits_ne_nil
  | cons c ds =>
    rw [hz] at hall
    exact ⟨c, ds, rfl, hall⟩

theorem Database.isNumberGap_of_isDigit {d : Char} (h : isDigit d = true) : isNumberGap d = false := by
  simp only [isDigit, Bool.and_eq_true, decide_eq_true_eq] at h
  have hlow : '0'.toNat ≤ d.toNat := h.1
  rw [isNumberGap]
  rw [Bool.or_eq_false_iff]
  refine ⟨?_, ?_⟩
  · rw [beq_eq_false_iff_ne]
    rintro rfl
    exact absurd hlow (by decide)
  · rw [Bool.and_eq_false_iff, decide_eq_false_iff_not, decide_eq_false_iff_not]
    right
    have : '0'.toNat = 48 := rfl
    omega

/-- A text that goes on with a dash behind its digits is no number. -/
theorem Database.numberOfText?_of_dash {c : Char} {ds r : List Char}
    (h : ∀ d ∈ c :: ds, isDigit d = true) :
    numberOfText? (String.ofList (c :: ds ++ '-' :: r)) = none := by
  have hc := h c List.mem_cons_self
  have hbody : stripWhile isNumberGap (c :: ds ++ '-' :: r)
      = c :: (ds ++ '-' :: dropEndWhile isNumberGap r) := by
    rw [stripWhile]
    rw [dropWhile_of_head, dropEndWhile_append_cons _ _ (by decide)]
    · rfl
    · intro d hd
      cases hd
      exact isNumberGap_of_isDigit hc
  generalize dropEndWhile isNumberGap r = r' at hbody
  have htake : (c :: (ds ++ '-' :: r')).takeWhile isDigit = c :: ds := by
    rw [← List.cons_append, List.takeWhile_append_of_pos h]
    simp [isDigit]
  have hdrop : (c :: (ds ++ '-' :: r')).dropWhile isDigit = '-' :: r' := by
    rw [← List.cons_append, List.dropWhile_append_of_pos h]
    simp [isDigit]
  rw [numberOfText?]
  rw [String.toList_ofList, hbody]
  -- the first character is a digit, so there is no sign
  simp only
  split
  · rename_i hsign
    cases hsign
    exact absurd hc (by decide)
  · rename_i hsign
    cases hsign
    exact absurd hc (by decide)
  · simp only [htake, hdrop]
    rfl

/-- A time in the ledger is no number. -/
theorem Time.numberOfText?_ledgerText (t : Time) : numberOfText? t.ledgerText = none := by
  obtain ⟨c, ds, hy, hall⟩ := exists_digits_zeroFilled 4 t.year
  have htext : t.ledgerText = String.ofList (c :: ds ++ '-' ::
      ((zeroFilled 2 t.month).toList ++ '-' :: ((zeroFilled 2 t.day).toList ++
        ' ' :: (t.clockText.toList ++ '.' :: (zeroFilled 6 t.microsecond).toList)))) := by
    rw [← String.toList_inj, String.toList_ofList, ← hy]
    simp [ledgerText]
  rw [htext]
  exact numberOfText?_of_dash hall

end DeliveryWatch
