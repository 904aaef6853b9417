/-
Changes that break no rule of a table, whatever its columns are.

* `store_ne_null` — a column keeps something of every value that is there;
* `Sound.keepsColumns_changed` — so a change to such values leaves no required value missing;
* `Sound.apart_changed` — a change that gives no cell to a column that has to be unique makes no two
  rows agree;
* `Sound.exists_change_iff` — so a change to such values succeeds exactly if its columns are there, and
  no two rows come to agree.
-/
import DeliveryWatch.Proofs.Database.Sound

namespace DeliveryWatch.Database

open Outcome

/-! ### Values that are kept -/

theorem ofFractional_ne_null (x : Fractional) : ofFractional x ≠ .null := by
  unfold ofFractional
  simp only
  split
  · exact nofun
  · split
    · exact nofun
    · exact nofun

/-- A number in text is a number, whatever its sign and its parts are. -/
theorem numberOfText?_ne_null (s : String) : numberOfText? s ≠ some .null := by
  have hnumber : ∀ (p q : Prop) [Decidable p] [Decidable q] (n : Int) (power : Option Int)
      (x : Int → Fractional), (if p then some (.int n) else if q then none
        else power.map fun e => ofFractional (x e)) ≠ some .null := by
    intro p q _ _ n power x h
    split at h
    · cases h
    · split at h
      · cases h
      · obtain ⟨e, -, he⟩ := Option.map_eq_some_iff.mp h
        exact ofFractional_ne_null _ he
  unfold numberOfText?
  simp only
  split
  · exact hnumber _ _ _ _ _
  · exact hnumber _ _ _ _ _
  · exact hnumber _ _ _ _ _

theorem store_ne_null (a : Affinity) {v : Value} (h : v ≠ .null) : a.store v ≠ .null := by
  rw [Affinity.store]
  split
  · cases v with
    | null => exact absurd rfl h
    | int n => exact nofun
    | real x => exact ofFractional_ne_null x
    | blob bytes => exact nofun
    | text s =>
      rw [numberOfValue]
      cases hs : numberOfText? s with
      | none => exact nofun
      | some w =>
        rintro rfl
        exact numberOfText?_ne_null s hs
  · split
    · cases v with
      | null => exact absurd rfl h
      | int n => exact nofun
      | real x => exact nofun
      | blob bytes => exact nofun
      | text s => exact nofun
    · exact h

namespace Table

variable {t : Table} {cells conditions : List (String × Value)}

/-! ### Rules of a changed table -/

theorem zip_changeRow (t : Table) (cells : List (String × Value)) (r : Row) :
    List.zip t.columns (t.changeRow cells r).values = (List.zip t.columns r.values).map fun x =>
      (x.1, ((given? cells x.1).map x.1.affinity.store).getD x.2) := by
  rw [changeRow]
  generalize t.columns = columns
  generalize r.values = values
  induction columns generalizing values with
  | nil => rfl
  | cons c columns ih =>
    cases values with
    | nil => rfl
    | cons v values =>
      rw [List.zipWith_cons_cons, List.zip_cons_cons, List.zip_cons_cons, List.map_cons, ih]

/-- A change to values that are there leaves no required value missing. -/
theorem Sound.keepsColumns_changed (hs : t.Sound) (hcells : ∀ x ∈ cells, x.2 ≠ .null) :
    ∀ r ∈ t.changedRows cells conditions, t.keepsColumns r = true := by
  intro r' hr'
  obtain ⟨r, hr, rfl⟩ := List.mem_map.mp hr'
  by_cases hm : t.meets conditions r = true
  · rw [if_pos hm, keepsColumns, zip_changeRow, List.all_map, List.all_eq_true]
    rintro ⟨c, v⟩ hcv
    have hold := List.all_eq_true.mp (hs.kept r hr) (c, v) hcv
    show (c.nullable || c.isRowNumber || ((given? cells c).map c.affinity.store).getD v != .null) = true
    cases hg : given? cells c with
    | none => exact hold
    | some w =>
      -- the column keeps something of what it is given
      have hw : w ≠ .null := by
        obtain ⟨x, hx, rfl⟩ := Option.map_eq_some_iff.mp hg
        exact hcells x (List.mem_of_find?_eq_some hx)
      rw [Bool.or_eq_true]
      exact .inr (bne_iff_ne.mpr (store_ne_null c.affinity hw))
  · rw [if_neg hm]
    exact hs.kept r hr

theorem mem_uniqueColumns {i : Nat} {c : Column} (h : (i, c) ∈ t.uniqueColumns) :
    t.columns[i]? = some c ∧ (c.isKey || c.isUnique) = true := by
  obtain ⟨hmem, hrule⟩ := List.mem_filter.mp h
  obtain ⟨⟨d, j⟩, hd, heq⟩ := List.mem_map.mp hmem
  cases heq
  exact ⟨List.mem_zipIdx_iff_getElem?.mp hd, hrule⟩

/-- Rows clash by their cells in unique columns only. -/
theorem clash_congr {r r' s s' : Row} (hr : ∀ x ∈ t.uniqueColumns, cell r' x.1 = cell r x.1)
    (hs : ∀ x ∈ t.uniqueColumns, cell s' x.1 = cell s x.1) : t.clash r' s' = t.clash r s := by
  rw [clash, clash, Bool.eq_iff_iff, List.any_eq_true, List.any_eq_true]
  have hiff : ∀ x ∈ t.uniqueColumns, ((cell r' x.1 != .null && cell r' x.1 == cell s' x.1) = true ↔
      (cell r x.1 != .null && cell r x.1 == cell s x.1) = true) := by
    intro x hx
    rw [hr x hx, hs x hx]
  constructor
  · rintro ⟨x, hx, h⟩
    exact ⟨x, hx, (hiff x hx).mp h⟩
  · rintro ⟨x, hx, h⟩
    exact ⟨x, hx, (hiff x hx).mpr h⟩

/-- A change that gives no cell to a unique column makes no two rows agree. -/
theorem Sound.apart_changed (hs : t.Sound)
    (hfree : ∀ c ∈ t.columns, (c.isKey || c.isUnique) = true → given? cells c = none) :
    (t.changedRows cells conditions).Pairwise fun r s => t.clash r s = false := by
  have hcell : ∀ r : Row, ∀ x ∈ t.uniqueColumns,
      cell (if t.meets conditions r then t.changeRow cells r else r) x.1 = cell r x.1 := by
    rintro r ⟨i, c⟩ hx
    obtain ⟨hc, hrule⟩ := mem_uniqueColumns hx
    by_cases hm : t.meets conditions r = true
    · rw [if_pos hm, cell_changeRow t cells r hc, hfree c (List.mem_of_getElem? hc) hrule, cell]
      show ((r.values[i]?).map id).getD .null = _
      rw [Option.map_id_fun, id]
    · rw [if_neg hm]
  rw [changedRows, List.pairwise_map]
  refine hs.distinct.imp ?_
  intro r s hrs
  rw [clash_congr (hcell r) (hcell s)]
  exact hrs

theorem isKey_of_isRowNumber {c : Column} (h : c.isRowNumber = true) :
    (c.isKey || c.isUnique) = true := by
  rw [Column.isRowNumber, Bool.and_eq_true] at h
  rw [h.1, Bool.true_or]

/-- **A change to values that are there and that fit succeeds** exactly if its columns are there, it makes
no two rows agree on a unique column, and what it writes as numbers of rows are numbers. -/
theorem Sound.exists_change_iff (hs : t.Sound) (hcells : ∀ x ∈ cells, x.2 ≠ .null)
    (hfit : checkCells (cells ++ conditions) = .ok ()) :
    (∃ r, t.change cells conditions = .ok r) ↔
      (∀ name ∈ cells.map (·.1) ++ conditions.map (·.1), (t.column? name).isSome = true) ∧
        (t.changedRows cells conditions).Pairwise (fun r s => t.clash r s = false) ∧
        ∃ rows, t.renumber cells (t.changedRows cells conditions) = .ok rows := by
  constructor
  · rintro ⟨⟨t', n⟩, h⟩
    obtain ⟨hcolumns, -, -, hdistinct, ⟨rows, hrows, -⟩, -⟩ := change_eq_ok.mp h
    exact ⟨checkColumns_eq_ok.mp hcolumns, (allDistinct_iff t _).mp hdistinct, rows, hrows⟩
  · rintro ⟨hcolumns, hapart, rows, hrows⟩
    exact ⟨_, change_eq_ok.mpr ⟨checkColumns_eq_ok.mpr hcolumns, hfit,
      List.all_eq_true.mpr (hs.keepsColumns_changed hcells), (allDistinct_iff t _).mpr hapart,
      ⟨rows, hrows, rfl⟩, rfl⟩⟩

end Table

end DeliveryWatch.Database
