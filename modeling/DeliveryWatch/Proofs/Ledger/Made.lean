/-
Tables of pings as they are made for configured names.

* `mapM_stated_eq_ok` — the columns as statements name them: those of pings, and one for a lookup field
  that is none of them;
* `columns_stated` — so a table that is made has the columns of pings, and the lookup field is one of its
  columns;
* `IsMade` — a table that was made so, whatever its rows are; it is a table of pings.
-/
import DeliveryWatch.Proofs.Ledger.Described
import DeliveryWatch.Proofs.Ledger.Line

namespace DeliveryWatch.Ledger.PingTable

open Database Table Outcome

variable {table field n : String} {p : PingTable} {db db' : Database} {t u : Table}

/-! ### Columns -/

/-- The column as a statement names it. -/
def stated (c : Column) : Except Database.Fault Column := do
  return { c with name := ← statementName c.name }

/-- The place of the lookup field among the columns. -/
def place (p : PingTable) : Nat := p.columns.findIdx fun c => c.name == p.field

/-- The names of the columns of pings are written as they are. -/
theorem mapM_stated_pingColumns : pingColumns.mapM stated = .ok pingColumns := by
  decide +kernel

theorem findIdx?_pingColumns {name : String} (h : name ∈ pingColumns.map Column.name) :
    statementName name = .ok name ∧ pingColumns.findIdx? (fun c => sameName c.name name)
      = some (pingColumns.findIdx fun c => c.name == name) := by
  have hall : ∀ name ∈ pingColumns.map Column.name, statementName name = .ok name ∧
      pingColumns.findIdx? (fun c => sameName c.name name)
        = some (pingColumns.findIdx fun c => c.name == name) := by
    decide +kernel
  exact hall name h

/-- What is described, as a statement names it: the columns of pings, and the one that the lookup field gets
if it is none of them. -/
theorem mapM_stated_eq_ok (hp : describe? (some table) (some field) = .ok p) {columns : List Column} :
    p.columns.mapM stated = .ok columns ↔
      p.field ∈ pingColumns.map Column.name ∧ columns = pingColumns ∨
      p.field ∉ pingColumns.map Column.name ∧ ∃ f, statementName p.field = .ok f ∧
        columns = pingColumns ++ [{ name := f, type := "TEXT" }] := by
  rw [columns_of_describe? hp]
  -- the field has a column already, or one is put behind those of all tables of pings
  by_cases hknown : p.field ∈ pingColumns.map Column.name
  · rw [ownColumns_of_mem hknown, List.append_nil, mapM_stated_pingColumns]
    simp only [hknown, true_and, not_true_eq_false, false_and, or_false, Except.ok.injEq]
    exact eq_comm
  · rw [ownColumns_of_notMem hknown, List.mapM_append]
    simp only [hknown, false_and, not_false_eq_true, true_and, false_or]
    constructor
    · intro h
      obtain ⟨usual, husual, h⟩ := bind_eq_ok.mp h
      obtain ⟨own, hown, h⟩ := bind_eq_ok.mp h
      cases mapM_stated_pingColumns.symm.trans husual
      cases h
      rw [List.mapM_cons, List.mapM_nil] at hown
      obtain ⟨c, hc, hown⟩ := bind_eq_ok.mp hown
      obtain ⟨f, hf, hc⟩ := bind_eq_ok.mp hc
      cases hc
      cases hown
      exact ⟨f, hf, rfl⟩
    · rintro ⟨f, hf, rfl⟩
      rw [mapM_stated_pingColumns, List.mapM_cons, List.mapM_nil, stated, hf]
      rfl

/-- A further column has a name of its own if no column of pings has it. -/
theorem distinctNames_own {f : String} :
    distinctNames ((pingColumns ++ [({ name := f, type := "TEXT" } : Column)]).map Column.name) = true ↔
      ∀ c ∈ pingColumns, sameName c.name f = false := by
  have husual : (pingColumns.map Column.name).Pairwise fun a b => sameName a b = false :=
    (distinctNames_iff _).mp (by decide)
  rw [distinctNames_iff, List.map_append, List.pairwise_append]
  constructor
  · rintro ⟨-, -, h⟩ c hc
    exact h c.name (List.mem_map_of_mem hc) f List.mem_cons_self
  · intro h
    refine ⟨husual, List.pairwise_singleton _ _, ?_⟩
    intro name hname g hg
    obtain ⟨c, hc, rfl⟩ := List.mem_map.mp hname
    rw [List.mem_singleton.mp hg]
    exact h c hc

/-- What is described, as a statement names it, if no name occurs twice: the columns of pings, then others
that no rule asks anything of; the lookup field has the place that was described. -/
theorem columns_stated (hp : describe? (some table) (some field) = .ok p) {columns : List Column}
    (h : p.columns.mapM stated = .ok columns)
    (hdistinct : distinctNames (columns.map Column.name) = true) :
    (∃ extra, columns = pingColumns ++ extra ∧ extra.all isExtra = true) ∧
      ∃ f, statementName p.field = .ok f ∧
        columns.findIdx? (fun c => sameName c.name f) = some p.place := by
  have hcolumns := columns_of_describe? hp
  rcases (mapM_stated_eq_ok hp).mp h with ⟨hknown, rfl⟩ | ⟨hknown, f, hf, rfl⟩
  · rw [ownColumns_of_mem hknown, List.append_nil] at hcolumns
    obtain ⟨hname, hplace⟩ := findIdx?_pingColumns hknown
    refine ⟨⟨[], rfl, rfl⟩, p.field, hname, ?_⟩
    rw [hplace, place, hcolumns]
  · rw [ownColumns_of_notMem hknown] at hcolumns
    -- the name of the lookup field is none of the others, or else a name would occur twice
    have hnew : ∀ d ∈ pingColumns, sameName d.name f = false := distinctNames_own.mp hdistinct
    have hnone : pingColumns.findIdx? (fun c => sameName c.name f) = none :=
      List.findIdx?_eq_none_iff.mpr hnew
    have hplace : p.place = pingColumns.length := by
      have hlast : pingColumns.findIdx (fun c => c.name == p.field) = pingColumns.length := by
        refine List.findIdx_eq_length.mpr ?_
        intro c hc
        rw [beq_eq_false_iff_ne]
        intro hsame
        rw [← hsame] at hknown
        exact hknown (List.mem_map_of_mem hc)
      rw [place, hcolumns, List.findIdx_append, hlast, if_neg (Nat.lt_irrefl _),
        List.findIdx_cons, beq_self_eq_true]
      rfl
    refine ⟨⟨_, rfl, ?_⟩, f, hf, ?_⟩
    · rw [List.all_cons, List.all_nil, Bool.and_true, isExtra]
      have hall : (pingColumns.all fun d => !sameName f d.name) = true := by
        refine List.all_eq_true.mpr ?_
        intro d hd
        rw [sameName_comm, hnew d hd]
        rfl
      rw [hall]
      rfl
    · rw [List.findIdx?_append, hnone, hplace, List.findIdx?_cons, sameName_self]
      rfl

/-! ### Tables that are made -/

/-- What a creation does: nothing where something of the name can be read, or else it adds the table that is
described, under the names that statements write. -/
theorem create_iff : p.create db = .ok db' ↔ db.isTooLong p.name = false ∧
    (db.isReadable p.name = true ∧ db' = db ∨
      db.isReadable p.name = false ∧ ∃ n columns, statementName p.name = .ok n ∧
        p.columns.mapM stated = .ok columns ∧ db.create { name := n, columns := columns } = .ok db') := by
  rw [create]
  cases db.isTooLong p.name with
  | true => exact ⟨nofun, nofun⟩
  | false =>
    simp only [Bool.false_eq_true, if_false, true_and]
    -- a name that can be read already is left alone
    split
    · rename_i h
      rw [h]
      simp only [true_and, Bool.true_eq_false, false_and, or_false, Except.ok.injEq]
      exact eq_comm
    · rename_i h
      rw [Bool.not_eq_true] at h
      rw [h]
      simp only [Bool.false_eq_true, false_and, true_and, false_or, bind_eq_ok]
      constructor
      · rintro ⟨n, hn, columns, hcolumns, hcreate⟩
        exact ⟨n, columns, hn, hcolumns, hcreate⟩
      · rintro ⟨n, columns, hn, hcolumns, hcreate⟩
        exact ⟨n, hn, columns, hcolumns, hcreate⟩

theorem table?_of_create (h : p.create db = .ok db') {name : String} (hu : db.table? name = some u) :
    db'.table? name = some u := by
  rcases (create_iff.mp h).2 with ⟨-, rfl⟩ | ⟨-, _, columns, -, -, hcreate⟩
  · exact hu
  · rw [table?_create hcreate, hu]
    rfl

theorem create_eq_ok (hn : statementName p.name = .ok n) (h : p.create db = .ok db')
    (hnone : db.table? n = none) (hu : db'.table? n = some u) :
    ∃ columns, p.columns.mapM stated = .ok columns ∧ u = { name := n, columns := columns } ∧
      distinctNames (columns.map Column.name) = true := by
  rcases (create_iff.mp h).2 with ⟨-, rfl⟩ | ⟨-, _, columns, hname, hcolumns, hcreate⟩
  · rw [hnone] at hu
    cases hu
  · cases hn.symm.trans hname
    obtain ⟨⟨-, -, -, -, hdistinct, -, -⟩, -⟩ := Database.create_eq_ok.mp hcreate
    rw [table?_create hcreate, hnone, Option.none_or, if_pos (sameName_self n)] at hu
    cases hu
    exact ⟨columns, hcolumns, rfl, hdistinct⟩

/-- A table that was made for configured names, whatever its rows are. -/
structure IsMade (p : PingTable) (n : String) (t : Table) : Prop where
  name : statementName p.name = .ok n
  /-- It has the columns of a table that was made where there was none. -/
  columns : ∃ db db' u, db.table? n = none ∧ p.create db = .ok db' ∧ db'.table? n = some u ∧
    t.columns = u.columns
  sound : t.Sound

namespace IsMade

/-- A table that was made is one of pings. -/
theorem isPings (h : p.IsMade n t) (hp : describe? (some table) (some field) = .ok p) : IsPings t := by
  obtain ⟨db, db', u, hnone, hcreate, hu, hcolumns⟩ := h.columns
  obtain ⟨columns, hstated, rfl, hdistinct⟩ := create_eq_ok h.name hcreate hnone hu
  obtain ⟨⟨extra, he, hx⟩, -⟩ := columns_stated hp hstated hdistinct
  exact ⟨⟨extra, hcolumns.trans he, hx⟩, h.sound⟩

theorem congr (h : p.IsMade n t) (hcolumns : u.columns = t.columns) (hs : u.Sound) : p.IsMade n u := by
  obtain ⟨db, db', v, hnone, hcreate, hv, hmade⟩ := h.columns
  exact ⟨h.name, ⟨db, db', v, hnone, hcreate, hv, hcolumns.trans hmade⟩, hs⟩

theorem column?_field (h : p.IsMade n t) (hp : describe? (some table) (some field) = .ok p) :
    ∃ f, statementName p.field = .ok f ∧ t.column? f = some p.place := by
  obtain ⟨db, db', u, hnone, hcreate, hu, hcolumns⟩ := h.columns
  obtain ⟨columns, hstated, rfl, hdistinct⟩ := create_eq_ok h.name hcreate hnone hu
  obtain ⟨-, f, hf, hplace⟩ := columns_stated hp hstated hdistinct
  refine ⟨f, hf, ?_⟩
  rw [column?, hcolumns]
  exact hplace

end IsMade

end DeliveryWatch.Ledger.PingTable
