/-
The rules that the rows of a table keep, and new rows.

* `Table.Sound` — every row has a value for each column, no value is missing where one is required,
  and no two rows agree on a column that has to be unique;
* `Sound.change`, `Sound.insert` — statements keep these rules;
* `Table.insert_eq_ok` — what a successful insertion needs, and which row it adds;
* `place_last` — a row with the next number comes last.
-/
import DeliveryWatch.Proofs.Database.Statement

namespace DeliveryWatch.Database.Table

open Outcome

/-! ### Rules -/

/-- The rows of a table keep the rules of its columns. -/
structure Sound (t : Table) : Prop where
  width : ∀ r ∈ t.rows, r.values.length = t.columns.length
  kept : ∀ r ∈ t.rows, t.keepsColumns r = true
  distinct : t.rows.Pairwise fun r s => t.clash r s = false

theorem allDistinct_iff (t : Table) (rs : List Row) :
    t.allDistinct rs = true ↔ rs.Pairwise fun r s => t.clash r s = false := by
  induction rs with
  | nil => simp [allDistinct]
  | cons r rs ih =>
    rw [List.pairwise_cons, ← ih, allDistinct, Bool.and_eq_true]
    simp

theorem clash_comm (t : Table) (r s : Row) : t.clash r s = t.clash s r := by
  rw [clash]
  congr 1
  funext p
  obtain ⟨i, c⟩ := p
  by_cases h : cell r i = cell s i
  · simp only [h]
  · have h1 : (cell r i == cell s i) = false := by simpa using h
    have h2 : (cell s i == cell r i) = false := by simpa using fun he => h he.symm
    simp only [h1, h2, Bool.and_false]

/-- A change keeps the rules. -/
theorem Sound.change {t t' : Table} {cells conditions : List (String × Value)} {n : Nat}
    (hs : t.Sound) (h : t.change cells conditions = .ok (t', n)) : t'.Sound := by
  obtain ⟨-, -, hkept, hdistinct, ⟨rows, hrows, rfl⟩, -⟩ := change_eq_ok.mp h
  obtain ⟨number, hperm⟩ := perm_of_renumber hrows
  -- the rules look at values only, so they need not be checked for the new numbers
  refine ⟨?_, ?_, ?_⟩
  · intro r' hr'
    obtain ⟨u, hu, rfl⟩ := List.mem_map.mp (hperm.mem_iff.mp hr')
    obtain ⟨r, hr, rfl⟩ := List.mem_map.mp hu
    have hw := hs.width r hr
    by_cases hm : t.meets conditions r = true
    · rw [if_pos hm]
      simp [changeRow, hw]
    · rw [if_neg hm]
      exact hw
  · intro r' hr'
    obtain ⟨u, hu, rfl⟩ := List.mem_map.mp (hperm.mem_iff.mp hr')
    exact List.all_eq_true.mp hkept u hu
  · have hclash : (t.changedRows cells conditions).Pairwise fun r s => t.clash r s = false :=
      (allDistinct_iff t _).mp hdistinct
    refine (hperm.pairwise_iff ?_).mpr (List.pairwise_map.mpr hclash)
    intro r s hrs
    show t.clash s r = false
    rw [clash_comm]
    exact hrs

/-! ### New rows -/

/-- The values of a new row before its number is written. -/
def newValues (t : Table) (cells : List (String × Value)) : List Value :=
  t.columns.map fun c => c.affinity.store ((given? cells c).getD c.default)

/-- The new row of a number. -/
def newRow (t : Table) (cells : List (String × Value)) (n : Int) : Row :=
  ⟨n, t.withNumber n (t.newValues cells)⟩

/-- What a successful insertion needs, and which row it adds. -/
theorem insert_eq_ok {t t' : Table} {cells : List (String × Value)} :
    t.insert cells = .ok t' ↔ cells.isEmpty = false ∧
      t.checkColumns (cells.map (·.1)) = .ok () ∧ checkCells cells = .ok () ∧
      ∃ n, t.numberOf (t.newValues cells) = .ok n ∧
        t.keepsColumns (t.newRow cells n) = true ∧
        (t.rows.any fun r => t.clash (t.newRow cells n) r || r.number == n) = false ∧
        t' = { t with rows := place (t.newRow cells n) t.rows } := by
  rw [insert]
  simp only [guard_eq_ok, bind_eq_ok, Bool.not_eq_true]
  constructor
  · rintro ⟨h0, _, h1, _, h2, n, hn, h3, h4, h⟩
    cases h
    exact ⟨h0, h1, h2, n, hn, Bool.not_eq_eq_eq_not.mp h3, h4, rfl⟩
  · rintro ⟨h0, h1, h2, n, hn, h3, h4, rfl⟩
    exact ⟨h0, (), h1, (), h2, n, hn, Bool.not_eq_eq_eq_not.mpr h3, h4, rfl⟩

theorem mem_place {r s : Row} {rs : List Row} : s ∈ place r rs ↔ s = r ∨ s ∈ rs := by
  rw [(place_perm r rs).mem_iff, List.mem_cons]

theorem place_last {r : Row} {rs : List Row} (h : ∀ s ∈ rs, s.number < r.number) :
    place r rs = rs ++ [r] := by
  induction rs with
  | nil => rfl
  | cons s rs ih =>
    have hs : ¬ r.number < s.number := by
      have := h s List.mem_cons_self
      omega
    rw [place]
    rw [if_neg hs, ih fun u hu => h u (List.mem_cons_of_mem _ hu)]
    rfl

theorem number_lt_nextNumber (t : Table) {r : Row} (hr : r ∈ t.rows) : r.number < t.nextNumber := by
  -- for the induction the greatest number so far is any number
  have key : ∀ (ns : List Int) (m : Int), m ≤ ns.foldl max m ∧ ∀ n ∈ ns, n ≤ ns.foldl max m := by
    intro ns
    induction ns with
    | nil => intro m; simp
    | cons n ns ih =>
      intro m
      obtain ⟨h1, h2⟩ := ih (max m n)
      refine ⟨by rw [List.foldl_cons]; omega, ?_⟩
      intro k hk
      rw [List.foldl_cons]
      rcases List.mem_cons.mp hk with rfl | hk
      · omega
      · exact h2 k hk
  have := (key (t.rows.map Row.number) 0).2 r.number (List.mem_map_of_mem hr)
  rw [nextNumber]
  omega

/-- An insertion keeps the rules. -/
theorem Sound.insert {t t' : Table} {cells : List (String × Value)} (hs : t.Sound)
    (h : t.insert cells = .ok t') : t'.Sound := by
  obtain ⟨-, -, -, n, -, hkept, hnew, rfl⟩ := insert_eq_ok.mp h
  refine ⟨?_, ?_, ?_⟩
  · intro r hr
    rcases mem_place.mp hr with rfl | hr
    · simp [newRow, withNumber, newValues]
    · exact hs.width r hr
  · intro r hr
    rcases mem_place.mp hr with rfl | hr
    · exact hkept
    · exact hs.kept r hr
  · -- clashes do not depend on the order, so the new row may as well stand first
    have hcons : (t.newRow cells n :: t.rows).Pairwise fun r s => t.clash r s = false := by
      refine List.Pairwise.cons ?_ hs.distinct
      intro r hr
      have := List.any_eq_false.mp hnew r hr
      simp only [Bool.or_eq_true, not_or, Bool.not_eq_true] at this
      exact this.1
    refine ((place_perm _ _).pairwise_iff ?_).mpr hcons
    intro r s hrs
    show t.clash s r = false
    rw [clash_comm]
    exact hrs

end DeliveryWatch.Database.Table
