/-
Unfolding a value piece by piece.

* `isInk` — a character that is part of no fold;
* `unfold_append_cons` — such a character parts the folds before it from those behind it;
* `exists_fold_of_afterFold?` — a fold is a line end with white space around it;
* `IsGap` — a single space, or a fold; `unfold_gap` — both are unfolded to a single space;
* `Spaced` — words with a gap between each two; `Spaced.unfold_append` — unfolded in any text, they
  have single spaces between them.
-/
import DeliveryWatch.Proofs.Message.Fields
import DeliveryWatch.Message.Unfold
import Mathlib.Data.List.TakeWhile

namespace DeliveryWatch.Message

open Text

/-! ### Characters that stop a fold -/

/-- A character that is part of no fold. -/
def isInk (c : Char) : Bool := !isSpaceOrTab c && !isLineEnd c

variable {c : Char} {s r : List Char}

theorem not_isSpaceOrTab_of_isInk (h : isInk c = true) : isSpaceOrTab c = false := by
  rw [isInk, Bool.and_eq_true, Bool.not_eq_true', Bool.not_eq_true'] at h
  exact h.1

theorem ne_of_isInk (h : isInk c = true) : c ≠ '\n' ∧ c ≠ '\r' := by
  constructor
  · rintro rfl
    exact absurd h (by decide)
  · rintro rfl
    exact absurd h (by decide)

/-! ### Folds -/

/-- What follows the line end of a fold. -/
def afterBreak? (s : List Char) : Option (List Char) :=
  match s with
  | [] => none
  | c :: _ => if isSpaceOrTab c then some (s.dropWhile isSpaceOrTab) else none

theorem afterFold?_of_feed (h : s.dropWhile isSpaceOrTab = '\n' :: r) :
    afterFold? s = afterBreak? r := by
  rw [afterFold?, h]
  cases r with
  | nil => rfl
  | cons d t => rfl

theorem afterFold?_of_returnFeed (h : s.dropWhile isSpaceOrTab = '\r' :: '\n' :: r) :
    afterFold? s = afterBreak? r := by
  rw [afterFold?, h]
  cases r with
  | nil => rfl
  | cons d t => rfl

/-- Without a line end behind the white space there is no fold. -/
theorem afterFold?_of_not_break (hfeed : ∀ t, s.dropWhile isSpaceOrTab ≠ '\n' :: t)
    (hreturn : ∀ t, s.dropWhile isSpaceOrTab ≠ '\r' :: '\n' :: t) : afterFold? s = none := by
  rw [afterFold?]
  split
  · rename_i t ht
    exact absurd ht (hfeed t)
  · rename_i t ht
    exact absurd ht (hreturn t)
  · rfl

theorem afterBreak?_append_cons (h : isInk c = true) (s r : List Char) :
    afterBreak? (s ++ c :: r) = (afterBreak? s).map (· ++ c :: r) := by
  have hspace := not_isSpaceOrTab_of_isInk h
  cases s with
  | nil =>
    show (if isSpaceOrTab c then some ((c :: r).dropWhile isSpaceOrTab) else none) = none
    rw [hspace, if_neg Bool.false_ne_true]
  | cons d t =>
    rw [List.cons_append, afterBreak?, afterBreak?]
    split
    · rw [← List.cons_append, dropWhile_append_cons hspace, Option.map_some]
    · rfl

theorem afterFold?_append_cons (h : isInk c = true) (s r : List Char) :
    afterFold? (s ++ c :: r) = (afterFold? s).map (· ++ c :: r) := by
  obtain ⟨hfeed, hreturn⟩ := ne_of_isInk h
  have hdrop := dropWhile_append_cons (not_isSpaceOrTab_of_isInk h) s r
  by_cases hf : ∃ t, s.dropWhile isSpaceOrTab = '\n' :: t
  · obtain ⟨t, ht⟩ := hf
    rw [ht, List.cons_append] at hdrop
    rw [afterFold?_of_feed ht, afterFold?_of_feed hdrop, afterBreak?_append_cons h]
  by_cases hr : ∃ t, s.dropWhile isSpaceOrTab = '\r' :: '\n' :: t
  · obtain ⟨t, ht⟩ := hr
    rw [ht, List.cons_append, List.cons_append] at hdrop
    rw [afterFold?_of_returnFeed ht, afterFold?_of_returnFeed hdrop, afterBreak?_append_cons h]
  rw [not_exists] at hf hr
  rw [afterFold?_of_not_break hf hr, Option.map_none]
  -- the first character of what is left is that of `s`, or else the ink character
  refine afterFold?_of_not_break (fun t ht => ?_) (fun t ht => ?_)
  · rw [hdrop] at ht
    cases hs : s.dropWhile isSpaceOrTab with
    | nil =>
      rw [hs] at ht
      cases ht
      exact hfeed rfl
    | cons d u =>
      rw [hs] at ht
      cases ht
      exact hf u hs
  · rw [hdrop] at ht
    rcases hs : s.dropWhile isSpaceOrTab with - | ⟨d, - | ⟨e, u⟩⟩
    · rw [hs] at ht
      cases ht
      exact hreturn rfl
    · rw [hs] at ht
      cases ht
      exact hfeed rfl
    · rw [hs] at ht
      cases ht
      exact hr u hs

theorem exists_of_afterBreak? {rest : List Char} (h : afterBreak? s = some rest) :
    ∃ after, (∀ d ∈ after, isSpaceOrTab d = true) ∧ after ≠ [] ∧ s = after ++ rest := by
  cases s with
  | nil => cases h
  | cons d t =>
    rw [afterBreak?] at h
    split at h
    · rename_i hd
      cases h
      refine ⟨(d :: t).takeWhile isSpaceOrTab, List.all_eq_true.mp List.all_takeWhile, ?_,
        List.takeWhile_append_dropWhile.symm⟩
      rw [List.takeWhile_cons_of_pos hd]
      exact List.cons_ne_nil _ _
    · cases h

theorem exists_fold_of_afterFold? {rest : List Char} (h : afterFold? s = some rest) :
    ∃ (before : List Char) (b : Break) (after : List Char), (∀ d ∈ before, isSpaceOrTab d = true) ∧
      (∀ d ∈ after, isSpaceOrTab d = true) ∧ after ≠ [] ∧
      s = before ++ b.chars ++ after ++ rest := by
  have hcut := List.takeWhile_append_dropWhile (p := isSpaceOrTab) (l := s)
  have hblank : ∀ d ∈ s.takeWhile isSpaceOrTab, isSpaceOrTab d = true :=
    List.all_eq_true.mp List.all_takeWhile
  -- a fold is looked for by its break: a line feed, with a carriage return before it or not
  by_cases hf : ∃ t, s.dropWhile isSpaceOrTab = '\n' :: t
  · obtain ⟨t, ht⟩ := hf
    rw [afterFold?_of_feed ht] at h
    obtain ⟨after, hafter, hne, rfl⟩ := exists_of_afterBreak? h
    refine ⟨s.takeWhile isSpaceOrTab, .feed, after, hblank, hafter, hne, ?_⟩
    rw [ht] at hcut
    simpa [Break.chars] using hcut.symm
  by_cases hr : ∃ t, s.dropWhile isSpaceOrTab = '\r' :: '\n' :: t
  · obtain ⟨t, ht⟩ := hr
    rw [afterFold?_of_returnFeed ht] at h
    obtain ⟨after, hafter, hne, rfl⟩ := exists_of_afterBreak? h
    refine ⟨s.takeWhile isSpaceOrTab, .returnFeed, after, hblank, hafter, hne, ?_⟩
    rw [ht] at hcut
    simpa [Break.chars] using hcut.symm
  rw [not_exists] at hf hr
  rw [afterFold?_of_not_break hf hr] at h
  cases h

/-! ### Unfolding -/

theorem unfold_nil : unfold [] = [] := by rw [unfold]

theorem unfold_of_fold {rest : List Char} (h : afterFold? (c :: r) = some rest) :
    unfold (c :: r) = ' ' :: unfold rest := by
  rw [unfold]
  split
  · rename_i rest' h'
    rw [h] at h'
    cases h'
    rfl
  · rename_i h'
    rw [h] at h'
    cases h'

theorem unfold_of_not_fold (h : afterFold? (c :: r) = none) : unfold (c :: r) = c :: unfold r := by
  rw [unfold]
  split
  · rename_i rest' h'
    rw [h] at h'
    cases h'
  · rfl

theorem unfold_cons (h : isInk c = true) (r : List Char) : unfold (c :: r) = c :: unfold r := by
  have hnone := afterFold?_append_cons h [] r
  exact unfold_of_not_fold hnone

/-- An ink character parts the folds before it from those behind it. -/
theorem unfold_append_cons (h : isInk c = true) (s r : List Char) :
    unfold (s ++ c :: r) = unfold s ++ c :: unfold r := by
  fun_induction unfold s with
  | case1 => exact unfold_cons h r
  | case2 d t rest hfold ih =>
    have hlong := afterFold?_append_cons h (d :: t) r
    rw [hfold, Option.map_some, List.cons_append] at hlong
    rw [List.cons_append, unfold_of_fold hlong, ih, List.cons_append]
  | case3 d t hfold ih =>
    have hlong := afterFold?_append_cons h (d :: t) r
    rw [hfold, Option.map_none, List.cons_append] at hlong
    rw [List.cons_append, unfold_of_not_fold hlong, ih, List.cons_append]

theorem unfold_append_of_isInk {w : List Char} (h : ∀ d ∈ w, isInk d = true) (r : List Char) :
    unfold (w ++ r) = w ++ unfold r := by
  induction w with
  | nil => rfl
  | cons d w ih =>
    rw [List.cons_append, unfold_cons (h d List.mem_cons_self),
      ih fun e he => h e (List.mem_cons_of_mem d he), List.cons_append]

/-! ### Gaps between words -/

/-- What stands between two words: a single space, or a fold, which is a line end with white space
behind it and perhaps before it. -/
inductive IsGap : List Char → Prop
  | space : IsGap [' ']
  | fold (before : List Char) (b : Break) (after : List Char)
      (hbefore : ∀ c ∈ before, isSpaceOrTab c = true) (hafter : ∀ c ∈ after, isSpaceOrTab c = true)
      (hne : after ≠ []) : IsGap (before ++ b.chars ++ after)

theorem afterBreak?_of_blank (h : ∀ d ∈ s, isSpaceOrTab d = true) (hne : s ≠ []) :
    afterBreak? s = some [] := by
  obtain ⟨d, t, rfl⟩ := List.exists_cons_of_ne_nil hne
  rw [afterBreak?, if_pos (h d List.mem_cons_self), List.dropWhile_eq_nil_iff.mpr h]

/-- A fold is the whole of its text. -/
theorem afterFold?_fold {before after : List Char} (b : Break)
    (hbefore : ∀ d ∈ before, isSpaceOrTab d = true) (hafter : ∀ d ∈ after, isSpaceOrTab d = true)
    (hne : after ≠ []) : afterFold? (before ++ b.chars ++ after) = some [] := by
  rw [← afterBreak?_of_blank hafter hne]
  cases b with
  | feed =>
    refine afterFold?_of_feed ?_
    rw [List.append_assoc, List.dropWhile_append_of_pos hbefore]
    rfl
  | returnFeed =>
    refine afterFold?_of_returnFeed ?_
    rw [List.append_assoc, List.dropWhile_append_of_pos hbefore]
    rfl

/-- **A gap is unfolded to a single space**, whatever follows the word behind it. -/
theorem unfold_gap {g : List Char} (hg : IsGap g) (h : isInk c = true) (r : List Char) :
    unfold (g ++ c :: r) = ' ' :: c :: unfold r := by
  rw [← unfold_cons h]
  cases hg with
  | space =>
    have hnone := afterFold?_append_cons h [' '] r
    exact unfold_of_not_fold hnone
  | fold before b after hbefore hafter hne =>
    have hsome := afterFold?_append_cons h (before ++ b.chars ++ after) r
    rw [afterFold?_fold b hbefore hafter hne, Option.map_some, List.nil_append] at hsome
    obtain ⟨d, t, hd⟩ : ∃ d t, before ++ b.chars ++ after = d :: t := by
      refine List.exists_cons_of_ne_nil ?_
      simp [hne]
    rw [hd, List.cons_append] at hsome ⊢
    exact unfold_of_fold hsome

/-! ### Rows of words -/

/-- A row of words with a gap between each two of them. -/
inductive Spaced : List (List Char) → List Char → Prop
  | single (w : List Char) : Spaced [w] w
  | cons (w : List Char) {g : List Char} {ws : List (List Char)} {s : List Char} (hg : IsGap g)
      (hs : Spaced ws s) : Spaced (w :: ws) (w ++ g ++ s)

/-- A word without any character of a fold. -/
structure IsInked (w : List Char) : Prop where
  ne : w ≠ []
  chars : ∀ c ∈ w, isInk c = true

instance (w : List Char) : Decidable (IsInked w) :=
  decidable_of_iff (w ≠ [] ∧ w.all isInk = true)
    ⟨fun h => ⟨h.1, List.all_eq_true.mp h.2⟩, fun h => ⟨h.ne, List.all_eq_true.mpr h.chars⟩⟩

theorem IsInked.unfold_append {w : List Char} (h : IsInked w) (s r : List Char) :
    unfold (s ++ (w ++ r)) = unfold s ++ (w ++ unfold r) := by
  obtain ⟨c, w, rfl⟩ := List.exists_cons_of_ne_nil h.ne
  rw [List.cons_append, unfold_append_cons (h.chars c List.mem_cons_self),
    unfold_append_of_isInk fun d hd => h.chars d (List.mem_cons_of_mem c hd), List.cons_append]

theorem IsInked.unfold_gap {g w : List Char} (h : IsInked w) (hg : IsGap g) (r : List Char) :
    unfold (g ++ (w ++ r)) = ' ' :: (w ++ unfold r) := by
  obtain ⟨c, w, rfl⟩ := List.exists_cons_of_ne_nil h.ne
  rw [List.cons_append, Message.unfold_gap hg (h.chars c List.mem_cons_self),
    unfold_append_of_isInk fun d hd => h.chars d (List.mem_cons_of_mem c hd), List.cons_append]

/-- The words of a row, but the first, stand behind a space each. -/
theorem Spaced.intercalate_cons {ws : List (List Char)} {s : List Char} (hs : Spaced ws s)
    (w : List Char) : [' '].intercalate (w :: ws) = w ++ ' ' :: [' '].intercalate ws := by
  cases hs with
  | single v => simp
  | cons v _ _ => simp

theorem spaced_intercalate (ws : List (List Char)) (hne : ws ≠ []) :
    Spaced ws ([' '].intercalate ws) := by
  induction ws with
  | nil => exact absurd rfl hne
  | cons w ws ih =>
    cases ws with
    | nil =>
      rw [List.intercalate_singleton]
      exact .single w
    | cons v ws =>
      rw [List.intercalate_cons_cons]
      exact .cons w .space (ih (List.cons_ne_nil v ws))

theorem Spaced.unfold_gap {ws : List (List Char)} {s g : List Char} (hs : Spaced ws s)
    (hws : ∀ w ∈ ws, IsInked w) (hg : IsGap g) (q : List Char) :
    unfold (g ++ (s ++ q)) = ' ' :: ([' '].intercalate ws ++ unfold q) := by
  induction hs generalizing g with
  | single w => rw [(hws w List.mem_cons_self).unfold_gap hg, List.intercalate_singleton]
  | @cons w g' ws s hg' hs ih =>
    have hrest := ih (fun v hv => hws v (List.mem_cons_of_mem w hv)) hg'
    rw [List.append_assoc, List.append_assoc, (hws w List.mem_cons_self).unfold_gap hg, hrest,
      hs.intercalate_cons, List.append_assoc, List.cons_append]

/-- **A row of words is unfolded to the words with single spaces between them**, whatever stands
around it. -/
theorem Spaced.unfold_append {ws : List (List Char)} {s : List Char} (hs : Spaced ws s)
    (hws : ∀ w ∈ ws, IsInked w) (p q : List Char) :
    unfold (p ++ (s ++ q)) = unfold p ++ ([' '].intercalate ws ++ unfold q) := by
  cases hs with
  | single => rw [(hws s List.mem_cons_self).unfold_append, List.intercalate_singleton]
  | @cons w g ws s hg hs =>
    have hrest := hs.unfold_gap (fun v hv => hws v (List.mem_cons_of_mem w hv)) hg q
    rw [List.append_assoc, List.append_assoc, (hws w List.mem_cons_self).unfold_append, hrest,
      hs.intercalate_cons, List.append_assoc, List.cons_append]

end DeliveryWatch.Message
