/-
Statements on tables, and what they leave as it was.

* `table?_put`, `table?_put_other` — a changed table is found under its name, all others are as
  before;
* `create_eq_ok` — what a new table needs;
* `Table.change_eq_ok` — everything a successful change does, and when there is one;
* `Table.change_eq_tooLarge` — a change fails by its own numbers exactly if its columns are there;
* `Table.perm_of_renumber` — a change that gives rows other numbers changes nothing else of them;
* `Table.first?_change` — a change that writes a mark leaves no row that meets a condition on the
  mark's earlier value, whatever the columns are like.
-/
import DeliveryWatch.Database.Name
import DeliveryWatch.Proofs.Outcome
import Mathlib.Data.List.Basic
import Mathlib.Data.List.Perm.Basic

namespace DeliveryWatch.Database

open Outcome

/-! ### Names -/

@[simp] theorem sameName_self (a : String) : sameName a a = true := by
  simp [sameName]

theorem sameName_comm (a b : String) : sameName a b = sameName b a := by
  simp only [sameName]
  rw [Bool.eq_iff_iff]
  simp only [beq_iff_eq]
  exact eq_comm

/-- Names that are the same can stand for each other. -/
theorem sameName_congr {a b : String} (h : sameName a b = true) (c : String) :
    sameName a c = sameName b c := by
  simp only [sameName, beq_iff_eq] at h
  simp only [sameName, h]

theorem sameName_congr_right {a b : String} (h : sameName a b = true) (c : String) :
    sameName c a = sameName c b := by
  rw [sameName_comm c a, sameName_comm c b]
  exact sameName_congr h c

/-! ### Tables in a database -/

theorem operational_of_statementName {name : String} {f : Fault}
    (h : statementName name = .error f) : f = .operational := by
  rw [statementName] at h
  split at h
  · cases h
  · simp only at h
    split at h
    · cases h
      rfl
    · cases h

theorem isReported_of_statementName {name : String} {f : Fault}
    (h : statementName name = .error f) : f.isReported = true := by
  rw [operational_of_statementName h]
  rfl

theorem isReported_of_demand {db : Database} {name : String} {f : Fault}
    (h : db.demand name = .error f) : f.isReported = true := by
  rw [demand] at h
  split at h
  · cases h
  · cases h
    rfl

theorem demand_eq_ok {db : Database} {name : String} {t : Table} :
    db.demand name = .ok t ↔ db.table? name = some t := by
  rw [demand]
  cases h : db.table? name with
  | none => simp
  | some u => simp

theorem sameName_of_table? {db : Database} {name : String} {t : Table}
    (h : db.table? name = some t) : sameName t.name name = true :=
  List.find?_some (p := fun t : Table => sameName t.name name) h

/-- Putting a table in its place does not change which tables have a name. -/
theorem sameName_comp_put (u : Table) (name : String) :
    ((fun t : Table => sameName t.name name) ∘ fun v : Table => if sameName v.name u.name then u else v)
      = fun t : Table => sameName t.name name := by
  funext v
  simp only [Function.comp_apply]
  by_cases hv : sameName v.name u.name = true
  · rw [if_pos hv, sameName_congr hv]
  · rw [if_neg hv]

theorem table?_put {db : Database} {name : String} {t u : Table} (h : db.table? name = some t)
    (hu : sameName u.name name = true) : (db.put u).table? name = some u := by
  unfold table? put at *
  rw [List.find?_map]
  rw [sameName_comp_put, h]
  have ht : sameName t.name u.name = true := by
    rw [sameName_congr_right hu]
    exact List.find?_some (p := fun t : Table => sameName t.name name) h
  simp [ht]

theorem table?_put_other (db : Database) {name : String} {u : Table}
    (hu : sameName u.name name = false) : (db.put u).table? name = db.table? name := by
  simp only [table?, put]
  rw [List.find?_map]
  rw [sameName_comp_put]
  -- the table of the other name is not the one that changes
  cases h : db.tables.find? (fun t : Table => sameName t.name name) with
  | none => rfl
  | some t =>
    have ht : sameName t.name name = true :=
      List.find?_some (p := fun t : Table => sameName t.name name) h
    have hne : sameName t.name u.name = false := by
      rw [sameName_congr ht, sameName_comm, hu]
    simp [hne]

theorem distinctNames_iff (names : List String) :
    distinctNames names = true ↔ names.Pairwise fun a b => sameName a b = false := by
  induction names with
  | nil => exact ⟨fun _ => List.Pairwise.nil, fun _ => rfl⟩
  | cons n names ih =>
    rw [List.pairwise_cons, ← ih, distinctNames, Bool.and_eq_true, Bool.not_eq_true', List.any_eq_false]
    simp only [Bool.not_eq_true]

theorem create_eq_ok {db db' : Database} {t : Table} : db.create t = .ok db' ↔
    (db.isOpen = true ∧ db.isTaken t.name = false ∧ isReservedName t.name = false ∧
      t.columns.isEmpty = false ∧ distinctNames (t.columns.map Column.name) = true ∧
      (t.columns.filter Column.isKey).length ≤ 1 ∧ t.indexes.any db.isTaken = false) ∧
    db' = { db with tables := db.tables ++ [t] } := by
  rw [create]
  -- the rules for the name and the columns are checked first, the one for the indexes behind them
  split
  · rename_i h
    refine ⟨nofun, ?_⟩
    rintro ⟨⟨h1, h2, h3, h4, h5, h6, -⟩, -⟩
    simp [h1, h2, h3, h4, h5, Nat.not_lt.mpr h6] at h
  · rename_i h
    simp only [Bool.or_eq_true, Bool.not_eq_true', decide_eq_true_eq, not_or, Bool.not_eq_false,
      Bool.not_eq_true, Nat.not_lt] at h
    obtain ⟨⟨⟨⟨⟨h1, h2⟩, h3⟩, h4⟩, h5⟩, h6⟩ := h
    split
    · rename_i h7
      refine ⟨nofun, ?_⟩
      rintro ⟨⟨-, -, -, -, -, -, h7'⟩, -⟩
      rw [h7] at h7'
      cases h7'
    · rename_i h7
      rw [Bool.not_eq_true] at h7
      constructor
      · rintro ⟨⟩
        exact ⟨⟨h1, h2, h3, h4, h5, h6, h7⟩, rfl⟩
      · rintro ⟨-, rfl⟩
        rfl

theorem operational_of_create {db : Database} {t : Table} {f : Fault}
    (h : db.create t = .error f) : f = .operational := by
  rw [create] at h
  split at h
  · cases h
    rfl
  · split at h
    · cases h
      rfl
    · cases h

/-- A new table is found under its name, where there was none. -/
theorem table?_create {db db' : Database} {t : Table} (h : db.create t = .ok db') (name : String) :
    db'.table? name = (db.table? name).or (if sameName t.name name then some t else none) := by
  obtain ⟨-, rfl⟩ := create_eq_ok.mp h
  simp only [table?]
  rw [List.find?_append, List.find?_singleton]

theorem insert_eq_ok {db db' : Database} {name : String} {cells : List (String × Value)} :
    db.insert name cells = .ok db' ↔
      ∃ t t', db.table? name = some t ∧ t.insert cells = .ok t' ∧ db' = db.put t' := by
  rw [insert]
  simp only [bind_eq_ok, demand_eq_ok]
  constructor
  · rintro ⟨t, ht, t', ht', h⟩
    cases h
    exact ⟨t, t', ht, ht', rfl⟩
  · rintro ⟨t, t', ht, ht', rfl⟩
    exact ⟨t, ht, t', ht', rfl⟩

theorem change_eq_ok {db db' : Database} {name : String} {cells conditions : List (String × Value)}
    {n : Nat} : db.change name cells conditions = .ok (db', n) ↔
      ∃ t t', db.table? name = some t ∧ t.change cells conditions = .ok (t', n) ∧ db' = db.put t' := by
  rw [change]
  simp only [bind_eq_ok, demand_eq_ok]
  constructor
  · rintro ⟨t, ht, ⟨t', m⟩, ht', h⟩
    cases h
    exact ⟨t, t', ht, ht', rfl⟩
  · rintro ⟨t, t', ht, ht', rfl⟩
    exact ⟨t, ht, (t', n), ht', rfl⟩

theorem first?_of_table? {db : Database} {name : String} {t : Table}
    (h : db.table? name = some t) (column : String) (conditions : List (String × Value)) :
    db.first? name column conditions = t.first? column conditions := by
  rw [first?]
  rw [demand_eq_ok.mpr h]
  rfl

theorem first?_congr {db db' : Database} {name : String}
    (h : db'.table? name = db.table? name) (column : String) (conditions : List (String × Value)) :
    db'.first? name column conditions = db.first? name column conditions := by
  simp only [first?, demand]
  rw [h]

/-! ### Rows of a table -/

namespace Table

/-- Values have a place in cells if whole numbers have. -/
theorem checkCells_eq_ok {cells : List (String × Value)} :
    checkCells cells = .ok () ↔ ∀ name n, (name, Value.int n) ∈ cells → fitsCell n = true := by
  rw [checkCells]
  constructor
  · intro h name n hmem
    split at h
    · rename_i hall
      exact List.all_eq_true.mp hall _ hmem
    · cases h
  · intro h
    rw [if_pos]
    rw [List.all_eq_true]
    rintro ⟨name, v⟩ hmem
    -- only whole numbers can be too large
    cases v with
    | int n => exact h name n hmem
    | null => rfl
    | real x => rfl
    | text s => rfl
    | blob bytes => rfl

theorem checkCells_eq_error {cells : List (String × Value)} {f : Fault}
    (h : checkCells cells = .error f) : f = .tooLarge := by
  rw [checkCells] at h
  split at h
  · cases h
  · cases h
    rfl

/-- What a successful question needs, and what it answers. -/
theorem first?_eq_ok {t : Table} {name : String} {conditions : List (String × Value)}
    {v : Option Value} : t.first? name conditions = .ok v ↔
      ∃ read, t.reader name = .ok read ∧ t.checkColumns (conditions.map (·.1)) = .ok () ∧
        checkCells conditions = .ok () ∧ v = (t.rows.find? (t.meets conditions)).map read := by
  rw [first?]
  simp only [bind_eq_ok]
  constructor
  · rintro ⟨read, hread, _, h1, _, h2, h⟩
    cases h
    exact ⟨read, hread, h1, h2, rfl⟩
  · rintro ⟨read, hread, h1, h2, rfl⟩
    exact ⟨read, hread, (), h1, (), h2, rfl⟩

theorem reader_of_column? {t : Table} {name : String} {i : Nat} (h : t.column? name = some i) :
    t.reader name = .ok fun r => cell r i := by
  rw [reader]
  rw [h]

/-- Cells give nothing to a column if none of them has its name. -/
theorem given?_eq_none {cells : List (String × Value)} {c : Column}
    (h : ∀ name ∈ cells.map (·.1), sameName name c.name = false) : given? cells c = none := by
  rw [given?, Option.map_eq_none_iff, List.find?_eq_none]
  intro x hx
  show ¬ sameName x.1 c.name = true
  rw [h x.1 (List.mem_map_of_mem hx)]
  exact Bool.false_ne_true

/-- The rows after a change. -/
def changedRows (t : Table) (cells conditions : List (String × Value)) : List Row :=
  t.rows.map fun r => if t.meets conditions r then t.changeRow cells r else r

theorem place_perm (r : Row) (rs : List Row) : (place r rs).Perm (r :: rs) := by
  induction rs with
  | nil => exact List.Perm.refl _
  | cons s rs ih =>
    rw [place]
    by_cases h : r.number < s.number
    · rw [if_pos h]
    · rw [if_neg h]
      exact (ih.cons s).trans (List.Perm.swap r s rs)

theorem foldr_place_perm (rs : List Row) : (rs.foldr place []).Perm rs := by
  induction rs with
  | nil => exact List.Perm.refl _
  | cons r rs ih => exact (place_perm r _).trans (ih.cons r)

/-- Renumbering puts other numbers on rows, and the rows in another order. -/
theorem perm_of_renumber {t : Table} {cells : List (String × Value)} {rows rows' : List Row}
    (h : t.renumber cells rows = .ok rows') :
    ∃ number : Row → Int, rows'.Perm (rows.map fun r => ⟨number r, r.values⟩) := by
  rw [renumber] at h
  split at h
  · cases h
    exact ⟨Row.number, by rw [List.map_id']⟩
  · split at h
    · cases h
      exact ⟨_, foldr_place_perm _⟩
    · cases h

theorem isReported_of_reader {t : Table} {name : String} {f : Fault}
    (h : t.reader name = .error f) : f.isReported = true := by
  rw [reader] at h
  split at h
  · cases h
  · split at h
    · cases h
    · cases h
      rfl

theorem isReported_of_checkColumns {t : Table} {names : List String} {f : Fault}
    (h : t.checkColumns names = .error f) : f.isReported = true := by
  rw [checkColumns] at h
  split at h
  · cases h
  · cases h
    rfl

theorem checkColumns_eq_ok {t : Table} {names : List String} :
    t.checkColumns names = .ok () ↔ ∀ name ∈ names, (t.column? name).isSome = true := by
  rw [checkColumns, ← List.all_eq_true]
  split
  · rename_i h
    exact ⟨fun _ => h, fun _ => rfl⟩
  · rename_i h
    exact ⟨nofun, fun h' => absurd h' h⟩

theorem isReported_of_renumber {t : Table} {cells : List (String × Value)} {rows : List Row}
    {f : Fault} (h : t.renumber cells rows = .error f) : f.isReported = true := by
  rw [renumber] at h
  split at h
  · cases h
  · split at h
    · cases h
    · cases h
      rfl

/-- A change that gives no cell to the column of the numbers leaves the rows in their places. -/
theorem renumber_of_not_given {t : Table} {cells : List (String × Value)}
    (h : ∀ c ∈ t.columns, c.isRowNumber = true → given? cells c = none) (rows : List Row) :
    t.renumber cells rows = .ok rows := by
  have hnone : (t.columns.findIdx? fun c => c.isRowNumber && (given? cells c).isSome) = none := by
    rw [List.findIdx?_eq_none_iff]
    intro c hc
    cases hn : c.isRowNumber with
    | false => rfl
    | true =>
      rw [h c hc hn]
      rfl
  rw [renumber, hnone]

theorem change_eq_ok {t t' : Table} {cells conditions : List (String × Value)} {n : Nat} :
    t.change cells conditions = .ok (t', n) ↔
      t.checkColumns (cells.map (·.1) ++ conditions.map (·.1)) = .ok () ∧
      checkCells (cells ++ conditions) = .ok () ∧
      (t.changedRows cells conditions).all t.keepsColumns = true ∧
      t.allDistinct (t.changedRows cells conditions) = true ∧
      (∃ rows, t.renumber cells (t.changedRows cells conditions) = .ok rows ∧
        t' = { t with rows := rows }) ∧
      n = (t.rows.filter (t.meets conditions)).length := by
  rw [change, changedRows]
  simp only [bind_eq_ok]
  constructor
  · rintro ⟨_, h1, _, h2, h⟩
    obtain ⟨h3, h⟩ := guard_eq_ok.mp h
    obtain ⟨rows, hrows, h⟩ := bind_eq_ok.mp h
    rw [Bool.not_eq_true, Bool.or_eq_false_iff] at h3
    cases h
    exact ⟨h1, h2, by simpa using h3.1, by simpa using h3.2, ⟨rows, hrows, rfl⟩, rfl⟩
  · rintro ⟨h1, h2, h3, h4, ⟨rows, hrows, rfl⟩, rfl⟩
    refine ⟨(), h1, (), h2, guard_eq_ok.mpr ⟨?_, bind_eq_ok.mpr ⟨rows, hrows, rfl⟩⟩⟩
    rw [h3, h4]
    exact Bool.false_ne_true

/-- A change of values that all have a place in cells fails by a fault that the database reports. -/
theorem isReported_of_change {t : Table} {cells conditions : List (String × Value)} {f : Fault}
    (hcells : checkCells (cells ++ conditions) = .ok ())
    (h : t.change cells conditions = .error f) : f.isReported = true := by
  rw [change] at h
  rcases bind_eq_error.mp h with h | ⟨_, -, h⟩
  · exact isReported_of_checkColumns h
  · rcases bind_eq_error.mp h with h | ⟨_, -, h⟩
    · rw [hcells] at h
      cases h
    · simp only at h
      split at h
      · cases h
        rfl
      · rcases bind_eq_error.mp h with h | ⟨_, -, h⟩
        · exact isReported_of_renumber h
        · cases h

/-- A change fails by its own numbers exactly if its columns are there, and some number has no place in
a cell. -/
theorem change_eq_tooLarge {t : Table} {cells conditions : List (String × Value)} :
    t.change cells conditions = .error .tooLarge ↔
      t.checkColumns (cells.map (·.1) ++ conditions.map (·.1)) = .ok () ∧
        checkCells (cells ++ conditions) ≠ .ok () := by
  -- the columns are checked before the numbers
  constructor
  · intro h
    refine ⟨?_, ?_⟩
    · cases hcolumns : t.checkColumns (cells.map (·.1) ++ conditions.map (·.1)) with
      | ok u => rfl
      | error f =>
        have hreported := isReported_of_checkColumns hcolumns
        rw [change, hcolumns] at h
        cases h
        cases hreported
    · intro hcells
      have hreported := isReported_of_change hcells h
      cases hreported
  · rintro ⟨hcolumns, hcells⟩
    cases hcheck : checkCells (cells ++ conditions) with
    | ok u => exact absurd hcheck hcells
    | error f =>
      cases checkCells_eq_error hcheck
      rw [change, hcolumns, hcheck]
      rfl

theorem cell_changeRow (t : Table) (cells : List (String × Value)) (r : Row) {i : Nat} {c : Column}
    (hc : t.columns[i]? = some c) : cell (t.changeRow cells r) i =
      ((r.values[i]?).map fun v => ((given? cells c).map c.affinity.store).getD v).getD .null := by
  rw [cell, changeRow]
  rw [List.getElem?_zipWith, hc]
  cases r.values[i]? with
  | none => rfl
  | some v => rfl

/-- A change that writes a mark to the rows of a key leaves no row of this key with a value of the
mark that the new one does not agree with. -/
theorem not_meets_changed {t : Table} {cells : List (String × Value)} {key mark : String}
    {k old new : Value}
    (hgiven : ∀ c : Column, sameName c.name mark = true → given? cells c = some new)
    (hne : ∀ a : Affinity, a.agrees (a.store new) old = false) (r : Row) :
    t.meets [(key, k), (mark, old)] (if t.meets [(key, k)] r then t.changeRow cells r else r)
      = false := by
  by_cases hk : t.meets [(key, k)] r = true
  · rw [if_pos hk]
    -- the row was changed, so its mark is the new one
    have hm : t.meets [(mark, old)] (t.changeRow cells r) = false := by
      simp only [meets, List.all_cons, List.all_nil, Bool.and_true]
      cases hi : t.column? mark with
      | none => rfl
      | some i =>
        simp only
        have hsame : ∃ c, t.columns[i]? = some c ∧ sameName c.name mark = true := by
          obtain ⟨hlt, hc, -⟩ := List.findIdx?_eq_some_iff_getElem.mp hi
          exact ⟨t.columns[i], List.getElem?_eq_getElem hlt, hc⟩
        obtain ⟨c, hc, hname⟩ := hsame
        rw [hc]
        simp only
        rw [cell_changeRow t cells r hc, hgiven c hname]
        cases r.values[i]? with
        | none => rfl
        | some v => exact hne c.affinity
    simp only [meets, List.all_cons, List.all_nil, Bool.and_true] at hm ⊢
    rw [hm, Bool.and_false]
  · rw [if_neg hk]
    rw [Bool.not_eq_true] at hk
    simp only [meets, List.all_cons, List.all_nil, Bool.and_true] at hk ⊢
    rw [hk, Bool.false_and]

/-- After such a change a question for the earlier value finds nothing. -/
theorem first?_change {t t' : Table} {cells : List (String × Value)} {name key mark : String}
    {k old new : Value} {n : Nat} {v : Option Value}
    (hgiven : ∀ c : Column, sameName c.name mark = true → given? cells c = some new)
    (hne : ∀ a : Affinity, a.agrees (a.store new) old = false)
    (hfirst : t.first? name [(key, k), (mark, old)] = .ok v)
    (hchange : t.change cells [(key, k)] = .ok (t', n)) :
    t'.first? name [(key, k), (mark, old)] = .ok none := by
  obtain ⟨read, hread, h1, h2, -⟩ := first?_eq_ok.mp hfirst
  obtain ⟨-, -, -, -, ⟨rows, hrows, rfl⟩, -⟩ := change_eq_ok.mp hchange
  refine first?_eq_ok.mpr ⟨read, hread, h1, h2, ?_⟩
  have hnone : rows.find? (t.meets [(key, k), (mark, old)]) = none := by
    rw [List.find?_eq_none]
    intro r' hr'
    -- conditions look at values only, so the number of a row and its place do not matter
    obtain ⟨number, hperm⟩ := perm_of_renumber hrows
    obtain ⟨u, hu, rfl⟩ := List.mem_map.mp (hperm.mem_iff.mp hr')
    obtain ⟨r, -, rfl⟩ := List.mem_map.mp hu
    show ¬ t.meets _ (if t.meets [(key, k)] r then t.changeRow cells r else r) = true
    rw [not_meets_changed hgiven hne]
    exact Bool.false_ne_true
  exact (congrArg (Option.map read) hnone).symm

end Table

end DeliveryWatch.Database
