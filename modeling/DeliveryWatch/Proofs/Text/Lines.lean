/-
Texts of one line.

* `IsOneLine` — a text without any character that breaks a line;
* `splitLines_of_isOneLine` — such a text is its only line;
* `lines_append_of_plain` — what stands at the front of a message starts its first line;
* `lines_append_feed` — behind a line feed a new line starts.
-/
import DeliveryWatch.Message.Section
import DeliveryWatch.Proofs.Text.Blank

namespace DeliveryWatch.Text

/-- A text without any character that breaks a line. -/
def IsOneLine (s : List Char) : Prop := ∀ c ∈ s, isLineBreak c = false

instance (s : List Char) : Decidable (IsOneLine s) :=
  List.decidableBAll (p := fun c => isLineBreak c = false) s

namespace IsOneLine

variable {s r : List Char} {c : Char}

theorem of_cons (h : IsOneLine (c :: r)) : isLineBreak c = false ∧ IsOneLine r :=
  ⟨h c List.mem_cons_self, fun d hd => h d (List.mem_cons_of_mem c hd)⟩

theorem append (hs : IsOneLine s) (hr : IsOneLine r) : IsOneLine (s ++ r) := by
  intro d hd
  rcases List.mem_append.mp hd with hd | hd
  · exact hs d hd
  · exact hr d hd

theorem not_isLineEnd (h : IsOneLine s) (hc : c ∈ s) : isLineEnd c = false := by
  cases he : isLineEnd c with
  | false => rfl
  | true =>
    have hb := isLineBreak_of_isLineEnd he
    rw [h c hc] at hb
    exact hb.symm

/-- What holds no blank is on one line. -/
theorem of_not_isBlank (h : ∀ d ∈ s, isBlank d = false) : IsOneLine s := by
  intro d hd
  cases he : isLineBreak d with
  | false => rfl
  | true =>
    have hb := isBlank_of_isLineBreak he
    rw [h d hd] at hb
    exact hb.symm

end IsOneLine

theorem splitLines_of_isOneLine {s : List Char} (h : IsOneLine s) (hs : s ≠ []) :
    splitLines s = [s] := by
  induction s with
  | nil => exact absurd rfl hs
  | cons c r ih =>
    obtain ⟨hc, hr⟩ := h.of_cons
    have hreturn : c ≠ '\r' := by
      rintro rfl
      exact absurd hc (by decide)
    rw [splitLines, if_neg (by simp [hc])]
    · cases r with
      | nil => rfl
      | cons d r => rw [ih hr (List.cons_ne_nil d r)]
    · intro r' hc' _
      exact hreturn hc'

end DeliveryWatch.Text

namespace DeliveryWatch.Message

open Text

theorem lines_cons {c : Char} (h : isLineEnd c = false) (r : List Char) :
    lines (c :: r) = (c :: (lines r).head?.getD []) :: (lines r).tail := by
  have hreturn : c ≠ '\r' := by
    rintro rfl
    exact absurd h (by decide)
  have hfeed : c ≠ '\n' := by
    rintro rfl
    exact absurd h (by decide)
  rw [lines]
  · cases lines r with
    | nil => rfl
    | cons l ls => rfl
  · exact hfeed
  · intro r' hc _
    exact hreturn hc
  · exact hreturn

/-- What is known to stand at the front of a text starts its first line. -/
theorem lines_append_of_plain {x : List Char} (h : ∀ c ∈ x, isLineEnd c = false) (hx : x ≠ [])
    (r : List Char) : lines (x ++ r) = (x ++ (lines r).head?.getD []) :: (lines r).tail := by
  induction x with
  | nil => exact absurd rfl hx
  | cons c x ih =>
    rw [List.cons_append, lines_cons (h c List.mem_cons_self)]
    cases x with
    | nil => rfl
    | cons d x =>
      rw [ih (fun e he => h e (List.mem_cons_of_mem c he)) (List.cons_ne_nil d x)]
      rfl

theorem exists_lines_of_cons (c : Char) (r : List Char) : ∃ l ls, lines (c :: r) = (c :: l) :: ls := by
  cases h : isLineEnd c with
  | false => exact ⟨_, _, lines_cons h r⟩
  | true =>
    simp only [isLineEnd, Bool.or_eq_true, beq_iff_eq] at h
    rcases h with rfl | rfl
    · cases r with
      | nil => exact ⟨_, _, rfl⟩
      -- a carriage return takes a line feed behind it into its line
      | cons d r =>
        by_cases hd : d = '\n'
        · rw [hd]
          exact ⟨['\n'], lines r, rfl⟩
        · refine ⟨[], lines (d :: r), ?_⟩
          rw [lines]
          intro r' hr
          cases hr
          exact hd rfl
    · exact ⟨[], lines r, rfl⟩

/-- What is behind a line does not matter to the characters in front of its end. -/
theorem lines_cons_append {c : Char} (h : isLineEnd c = false) {s x r : List Char} (hx : x ≠ [])
    (hs : lines s = lines x ++ lines r) : lines (c :: s) = lines (c :: x) ++ lines r := by
  obtain ⟨d, x, rfl⟩ := List.exists_cons_of_ne_nil hx
  obtain ⟨l, ls, hl⟩ := exists_lines_of_cons d x
  rw [lines_cons h, lines_cons h, hs, hl]
  rfl

theorem lines_append_feed (x r : List Char) :
    lines (x ++ '\n' :: r) = lines (x ++ ['\n']) ++ lines r := by
  fun_induction lines x with
  | case1 => rfl
  | case2 x ih =>
    rw [List.cons_append, List.cons_append, lines, lines, ih, List.cons_append]
  | case3 x ih =>
    show lines ('\r' :: '\n' :: (x ++ '\n' :: r)) = lines ('\r' :: '\n' :: (x ++ ['\n'])) ++ lines r
    rw [lines, lines, ih, List.cons_append]
  | case4 x hx ih =>
    -- a carriage return alone ends a line, but at the end of the text it joins the line feed
    cases x with
    | nil => rfl
    | cons d x =>
      have hd : ∀ s y, d :: s = '\n' :: y → False := by
        intro s y h
        cases h
        exact hx x rfl
      show lines ('\r' :: d :: (x ++ '\n' :: r)) = lines ('\r' :: d :: (x ++ ['\n'])) ++ lines r
      rw [lines, lines]
      · exact congrArg (List.cons ['\r']) ih
      · exact hd _
      · exact hd _
  | case5 c x hfeed _ hreturn _ ih =>
    exact lines_cons_append (by simpa [isLineEnd] using ⟨hreturn, hfeed⟩) (by simp) ih
  | case6 c x hfeed _ hreturn _ _ _ ih =>
    exact lines_cons_append (by simpa [isLineEnd] using ⟨hreturn, hfeed⟩) (by simp) ih

end DeliveryWatch.Message
