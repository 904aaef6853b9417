/-
Cutting a text at a mark that is known to stand in it, or not to.

* `cutFirst?_append` — text without the first sign of the mark is skipped;
* `cutFirst?_mark` — a text that starts with the mark is cut there;
* `cutFirst?_eq_some_iff` — in any text the mark is cut out where it stands first;
* `isPrefixOf?_append_of_head` — a mark does not reach into a text that begins with none of its signs;
* `pair_infix_append` — where a mark of two signs can stand in two texts together.
-/
import DeliveryWatch.Text.Basic

namespace DeliveryWatch.Text

variable {α : Type} [BEq α] [LawfulBEq α]

theorem isPrefixOf?_append (mark s : List α) : mark.isPrefixOf? (mark ++ s) = some s := by
  induction mark with
  | nil => exact isPrefixOf?_nil s
  | cons m ms ih => rw [List.cons_append, isPrefixOf?_cons, if_pos (beq_self_eq_true m), ih]

theorem isPrefixOf?_of_not_prefix {mark s : List α} (h : ¬ mark <+: s) :
    mark.isPrefixOf? s = none := by
  cases hs : mark.isPrefixOf? s with
  | none => rfl
  | some rest => exact absurd ⟨rest, (eq_append_of_isPrefixOf? hs).symm⟩ h

theorem isPrefixOf?_of_ne {m c : α} (h : m ≠ c) (ms r : List α) :
    (m :: ms).isPrefixOf? (c :: r) = none := by
  rw [isPrefixOf?_cons, if_neg (by simpa using h)]

omit [LawfulBEq α] in
theorem cutFirst?_cons {mark r : List α} {c : α} (h : mark.isPrefixOf? (c :: r) = none) :
    cutFirst? mark (c :: r) = (cutFirst? mark r).map fun (before, after) => (c :: before, after) := by
  rw [cutFirst?, h]

theorem cutFirst?_append {m : α} {ms x : List α} (h : m ∉ x) (s : List α) :
    cutFirst? (m :: ms) (x ++ s)
      = (cutFirst? (m :: ms) s).map fun (before, after) => (x ++ before, after) := by
  induction x with
  | nil =>
    cases hs : cutFirst? (m :: ms) s with
    | none => simp [hs]
    | some p => simp [hs]
  | cons c x ih =>
    rw [List.mem_cons, not_or] at h
    rw [List.cons_append, cutFirst?_cons (isPrefixOf?_of_ne h.1 _ _), ih h.2, Option.map_map]
    rfl

theorem cutFirst?_mark (m : α) (ms s : List α) :
    cutFirst? (m :: ms) (m :: ms ++ s) = some ([], s) := by
  have h := isPrefixOf?_append (m :: ms) s
  rw [List.cons_append] at h ⊢
  rw [cutFirst?, h]

/-- Where no mark stands in front, every cut begins with the first sign. -/
theorem cons_eq_append_iff {mark r : List α} {c : α} (h : mark.isPrefixOf? (c :: r) = none)
    {a b : List α} : c :: r = a ++ mark ++ b ↔ ∃ a', a = c :: a' ∧ r = a' ++ mark ++ b := by
  cases a with
  | nil =>
    refine ⟨?_, ?_⟩
    · intro heq
      rw [heq, List.nil_append, isPrefixOf?_append] at h
      cases h
    · rintro ⟨a', ha', -⟩
      cases ha'
  | cons d a =>
    refine ⟨?_, ?_⟩
    · intro heq
      cases heq
      exact ⟨a, rfl, rfl⟩
    · rintro ⟨a', ha', rfl⟩
      cases ha'
      rfl

/-- A mark is cut out where it stands first. -/
theorem cutFirst?_eq_some_iff {mark s before after : List α} :
    cutFirst? mark s = some (before, after) ↔ s = before ++ mark ++ after ∧
      ∀ a b, s = a ++ mark ++ b → before.length ≤ a.length := by
  induction s generalizing before after with
  | nil =>
    rw [cutFirst?, Option.map_eq_some_iff]
    constructor
    · rintro ⟨rest, hrest, heq⟩
      cases heq
      refine ⟨eq_append_of_isPrefixOf? hrest, ?_⟩
      intro a b _
      exact Nat.zero_le _
    · rintro ⟨hs, -⟩
      obtain ⟨rfl, rfl, rfl⟩ : before = [] ∧ mark = [] ∧ after = [] := by simpa using hs.symm
      exact ⟨[], rfl, rfl⟩
  | cons c r ih =>
    cases hc : mark.isPrefixOf? (c :: r) with
    | some rest =>
      have hs := eq_append_of_isPrefixOf? hc
      rw [cutFirst?, hc]
      constructor
      · intro h
        cases h
        refine ⟨hs, ?_⟩
        intro a b _
        exact Nat.zero_le _
      · rintro ⟨heq, hfirst⟩
        have hnil : before = [] := List.length_eq_zero_iff.mp (Nat.le_zero.mp (hfirst [] rest hs))
        subst hnil
        rw [heq] at hs
        cases List.append_cancel_left hs
        rfl
    | none =>
      rw [cutFirst?_cons hc, Option.map_eq_some_iff]
      constructor
      · rintro ⟨⟨x, y⟩, hx, heq⟩
        cases heq
        obtain ⟨hr, hfirst⟩ := ih.mp hx
        refine ⟨(cons_eq_append_iff hc).mpr ⟨x, rfl, hr⟩, ?_⟩
        intro a b hab
        obtain ⟨a', rfl, ha'⟩ := (cons_eq_append_iff hc).mp hab
        exact Nat.succ_le_succ (hfirst a' b ha')
      · rintro ⟨hs, hfirst⟩
        obtain ⟨x, rfl, hr⟩ := (cons_eq_append_iff hc).mp hs
        refine ⟨(x, after), ih.mpr ⟨hr, ?_⟩, rfl⟩
        intro a b hab
        exact Nat.le_of_succ_le_succ (hfirst (c :: a) b ((cons_eq_append_iff hc).mpr ⟨a, rfl, hab⟩))

/-- Behind a text that stops before any sign of the mark, the mark does not go on. -/
theorem isPrefixOf?_append_of_head {mark r : List α} (h : ∀ c ∈ r.head?, c ∉ mark) (w : List α) :
    mark.isPrefixOf? (w ++ r) = (mark.isPrefixOf? w).map (· ++ r) := by
  induction mark generalizing w with
  | nil => rw [isPrefixOf?_nil, isPrefixOf?_nil, Option.map_some]
  | cons m ms ih =>
    cases w with
    | nil =>
      rw [List.nil_append, isPrefixOf?_cons_nil, Option.map_none]
      -- the text is over, and what follows starts with no sign of the mark
      cases r with
      | nil => exact isPrefixOf?_cons_nil m ms
      | cons c r =>
        refine isPrefixOf?_of_ne ?_ ms r
        rintro rfl
        exact h m rfl List.mem_cons_self
    | cons d w =>
      rw [List.cons_append, isPrefixOf?_cons, isPrefixOf?_cons]
      split
      · exact ih (fun c hc hmem => h c hc (List.mem_cons_of_mem m hmem)) w
      · rfl

/-- A mark of two signs that stands in two texts together stands in one of them, or where they meet. -/
theorem pair_infix_append {α : Type} {a b : α} {x y : List α} (h : [a, b] <:+: x ++ y) :
    [a, b] <:+: x ∨ [a, b] <:+: y ∨ x.getLast? = some a ∧ y.head? = some b := by
  rcases List.infix_append_iff_ne_nil.mp h with hi | hi | ⟨l, l', hl, hl', heq, hx, hy⟩
  · exact .inl hi
  · exact .inr (.inl hi)
  · refine .inr (.inr ?_)
    obtain ⟨r, rfl⟩ := hx
    obtain ⟨r', rfl⟩ := hy
    obtain ⟨c, l, rfl⟩ := List.exists_cons_of_ne_nil hl
    obtain ⟨d, l', rfl⟩ := List.exists_cons_of_ne_nil hl'
    cases l with
    | nil =>
      cases heq
      exact ⟨List.getLast?_concat, rfl⟩
    | cons e l => simp at heq

end DeliveryWatch.Text
