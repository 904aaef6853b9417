/-
Stripping the ends of a text, and parting its words.

* `dropEndWhile_append_cons` — what stands before a character that stays, stays too;
* `dropEndWhile_of_getLast` — a text whose last character stays is not cut at its end;
* `head_stripWhile`, `getLast_stripWhile` — the ends of a stripped text stay, and a text whose ends stay
  is not stripped (`stripWhile_of_ends`);
* `words_append_cons` — a blank parts words; `words_intercalate` — so words joined by spaces are parted
  again;
* `words_append_of_head` — signs up to a blank are a word; `induction_on_words` — so every text can be
  taken apart into blanks and words;
* `isBlank_of_isSpaceOrTab`, `isBlank_of_isLineBreak` — what folds or ends a line is blank.
-/
import DeliveryWatch.Text.Basic
import Mathlib.Data.List.Basic
import Mathlib.Data.List.TakeWhile

namespace DeliveryWatch.Text

/-! ### Kinds of blanks -/

theorem isBlank_of_isSpaceOrTab {c : Char} (h : isSpaceOrTab c = true) : isBlank c = true := by
  simp only [isSpaceOrTab, Bool.or_eq_true, beq_iff_eq] at h
  rcases h with rfl | rfl
  · decide
  · decide

theorem isBlank_of_isLineBreak {c : Char} (h : isLineBreak c = true) : isBlank c = true := by
  simp only [isLineBreak, Bool.or_eq_true, Bool.and_eq_true, decide_eq_true_eq, beq_iff_eq] at h
  simp only [isBlank, Bool.or_eq_true, Bool.and_eq_true, decide_eq_true_eq, beq_iff_eq]
  omega

theorem isLineBreak_of_isLineEnd {c : Char} (h : isLineEnd c = true) : isLineBreak c = true := by
  simp only [isLineEnd, Bool.or_eq_true, beq_iff_eq] at h
  rcases h with rfl | rfl
  · decide
  · decide

/-! ### Ends of a text -/

variable {α : Type} {p : α → Bool}

theorem length_dropWhile_cons_le {c : α} (h : p c = true) (r : List α) :
    ((c :: r).dropWhile p).length ≤ r.length := by
  rw [List.dropWhile_cons_of_pos h]
  exact (List.dropWhile_sublist p).length_le

theorem dropWhile_of_head {s : List α} (h : ∀ c ∈ s.head?, p c = false) : s.dropWhile p = s := by
  cases s with
  | nil => rfl
  | cons c r =>
    rw [List.dropWhile_cons_of_neg]
    rw [h c rfl]
    exact Bool.false_ne_true

/-- A run ends where the text does not go on with a character of its class. -/
theorem takeWhile_append_of_head {w r : List α} (h : ∀ c ∈ w, p c = true)
    (hr : ∀ c ∈ r.head?, p c = false) : (w ++ r).takeWhile p = w := by
  rw [List.takeWhile_append_of_pos h]
  cases r with
  | nil => simp
  | cons d r => rw [List.takeWhile_cons_of_neg (by simp [hr d rfl]), List.append_nil]

theorem dropWhile_append_of_head {w r : List α} (h : ∀ c ∈ w, p c = true)
    (hr : ∀ c ∈ r.head?, p c = false) : (w ++ r).dropWhile p = r := by
  rw [List.dropWhile_append_of_pos h]
  exact dropWhile_of_head hr

/-- A character that stays stops what is dropped. -/
theorem dropWhile_append_cons {c : α} (h : p c = false) (s r : List α) :
    (s ++ c :: r).dropWhile p = s.dropWhile p ++ c :: r := by
  have hc : (c :: r).dropWhile p = c :: r := List.dropWhile_cons_of_neg (by simp [h])
  rw [List.dropWhile_append]
  split
  · rename_i hnil
    rw [hc, List.isEmpty_iff.mp hnil, List.nil_append]
  · rfl

/-- What stands before a character that stays, stays too. -/
theorem dropEndWhile_append_cons (a r : List α) {c : α} (h : p c = false) :
    dropEndWhile p (a ++ c :: r) = a ++ c :: dropEndWhile p r := by
  have hreverse : (a ++ c :: r).reverse = r.reverse ++ c :: a.reverse := by simp
  rw [dropEndWhile, hreverse, dropWhile_append_cons h, dropEndWhile]
  simp

theorem dropEndWhile_of_getLast {s : List α} (h : ∀ c ∈ s.getLast?, p c = false) :
    dropEndWhile p s = s := by
  rw [dropEndWhile]
  rw [dropWhile_of_head, List.reverse_reverse]
  rw [List.head?_reverse]
  exact h

theorem stripWhile_of_ends {s : List α} (hhead : ∀ c ∈ s.head?, p c = false)
    (hlast : ∀ c ∈ s.getLast?, p c = false) : stripWhile p s = s := by
  rw [stripWhile, dropWhile_of_head hhead, dropEndWhile_of_getLast hlast]

theorem stripWhile_of_not {s : List α} (h : ∀ c ∈ s, p c = false) :
    stripWhile p s = s :=
  stripWhile_of_ends (fun c hc => h c (List.mem_of_mem_head? hc))
    (fun c hc => h c (List.mem_of_getLast? hc))

theorem head_dropWhile {s : List α} : ∀ c ∈ (s.dropWhile p).head?, p c = false := by
  intro c hc
  have hstop := List.head?_dropWhile_not p s
  rw [Option.mem_def.mp hc] at hstop
  exact hstop

theorem getLast_dropEndWhile {s : List α} : ∀ c ∈ (dropEndWhile p s).getLast?, p c = false := by
  rw [dropEndWhile, List.getLast?_reverse]
  exact head_dropWhile

theorem getLast_stripWhile {s : List α} : ∀ c ∈ (stripWhile p s).getLast?, p c = false :=
  getLast_dropEndWhile

theorem head_stripWhile {s : List α} : ∀ c ∈ (stripWhile p s).head?, p c = false := by
  intro c hc
  have hparts := dropEndWhile_append_takeEndWhile p (s.dropWhile p)
  refine head_dropWhile (s := s) c ?_
  rw [← hparts, List.head?_append, Option.mem_def, ← stripWhile, Option.mem_def.mp hc]
  rfl

/-! ### Words -/

/-- A blank parts words. -/
theorem words_append_cons (a b : List Char) {c : Char} (h : isBlank c = true) :
    words (a ++ c :: b) = words a ++ words b := by
  rw [words, List.splitOnP_append_cons a b h, List.filter_append]
  rfl

theorem words_of_not_isBlank {w : List Char} (hne : w ≠ []) (h : ∀ c ∈ w, isBlank c = false) :
    words w = [w] := by
  rw [words, List.splitOnP_eq_singleton h]
  simp [hne]

theorem words_ne_nil {s : List Char} {c : Char} (hc : c ∈ s) (h : isBlank c = false) :
    words s ≠ [] := by
  induction s with
  | nil => cases hc
  | cons d r ih =>
    by_cases hd : isBlank d = true
    -- a blank is not the visible sign, so this one stands behind it
    · have hr : c ∈ r := by
        rcases List.mem_cons.mp hc with rfl | hr
        · rw [h] at hd
          cases hd
        · exact hr
      have hwords : words (d :: r) = words r := words_append_cons [] r hd
      rw [hwords]
      exact ih hr
    · obtain ⟨l, ls, hl⟩ := List.exists_cons_of_ne_nil (List.splitOnP_ne_nil isBlank r)
      rw [words, List.splitOnP_cons_eq_if_modifyHead, if_neg hd, hl]
      simp

theorem words_intercalate {ws : List (List Char)} (hne : ∀ w ∈ ws, w ≠ [])
    (h : ∀ w ∈ ws, ∀ c ∈ w, isBlank c = false) : words ([' '].intercalate ws) = ws := by
  induction ws with
  | nil => rfl
  | cons w ws ih =>
    have hw := words_of_not_isBlank (hne w List.mem_cons_self) (h w List.mem_cons_self)
    have hrest := ih (fun v hv => hne v (List.mem_cons_of_mem w hv))
      (fun v hv => h v (List.mem_cons_of_mem w hv))
    cases ws with
    | nil => rw [List.intercalate_singleton, hw]
    | cons v ws =>
      have hcons : [' '].intercalate (w :: v :: ws) = w ++ ' ' :: [' '].intercalate (v :: ws) := by
        simp
      rw [hcons, words_append_cons w _ (by decide), hw, hrest]
      rfl

theorem words_cons_of_isBlank {c : Char} (h : isBlank c = true) (s : List Char) :
    words (c :: s) = words s := words_append_cons [] s h

/-- Signs up to a blank, or to the end, are a word. -/
theorem words_append_of_head {w r : List Char} (hne : w ≠ []) (hw : ∀ c ∈ w, isBlank c = false)
    (hr : ∀ c ∈ r.head?, isBlank c = true) : words (w ++ r) = w :: words r := by
  cases r with
  | nil =>
    rw [List.append_nil, words_of_not_isBlank hne hw]
    rfl
  | cons c r =>
    have hc := hr c rfl
    rw [words_append_cons w r hc, words_of_not_isBlank hne hw, words_cons_of_isBlank hc]
    rfl

/-- Every text is made up of blanks, and of words with a blank or nothing behind them. -/
theorem induction_on_words {P : List Char → Prop} (nil : P [])
    (blank : ∀ c s, isBlank c = true → P s → P (c :: s))
    (word : ∀ w r, w ≠ [] → (∀ c ∈ w, isBlank c = false) → (∀ c ∈ r.head?, isBlank c = true) →
      P r → P (w ++ r)) (s : List Char) : P s := by
  induction hn : s.length using Nat.strongRecOn generalizing s with
  | ind n ih =>
    cases s with
    | nil => exact nil
    | cons c s =>
      cases hc : isBlank c with
      | true => exact blank c s hc (ih s.length (by rw [← hn]; exact Nat.lt_succ_self _) s rfl)
      | false =>
        -- the signs up to the next blank are a word, and what follows them is shorter
        have hlt : ((c :: s).dropWhile fun d => !isBlank d).length < n := by
          rw [List.dropWhile_cons_of_pos (by rw [hc]; rfl), ← hn]
          exact Nat.lt_succ_of_le (List.dropWhile_sublist _).length_le
        have hword := word ((c :: s).takeWhile fun d => !isBlank d)
          ((c :: s).dropWhile fun d => !isBlank d) ?_ ?_ ?_ (ih _ hlt _ rfl)
        · rw [List.takeWhile_append_dropWhile] at hword
          exact hword
        · rw [List.takeWhile_cons_of_pos (by rw [hc]; rfl)]
          exact List.cons_ne_nil _ _
        · intro d hd
          have := List.mem_takeWhile_imp hd
          simpa using this
        · intro d hd
          have := List.head?_dropWhile_not (fun d => !isBlank d) (c :: s)
          rw [Option.mem_def.mp hd] at this
          simpa using this

theorem not_isBlank_of_mem_words {s w : List Char} (h : w ∈ words s) : ∀ c ∈ w, isBlank c = false := by
  induction s using induction_on_words with
  | nil => cases h
  | blank c s hc ih =>
    rw [words_cons_of_isBlank hc] at h
    exact ih h
  | word v r hne hv hr ih =>
    rw [words_append_of_head hne hv hr] at h
    rcases List.mem_cons.mp h with rfl | h
    · exact hv
    · exact ih h

end DeliveryWatch.Text
