/-
Which configured names make a table of pings that can be used.

* `TakesTable`, `TakesField` — names that a table can be created under, and lookup fields that it can have;
* `exists_made`, `takes_of_create` — a described table is created exactly for such names;
* `Kept` — the table that was made, and pings that wait in it were not received; `Kept.add` and
  `Kept.record` keep this, and `Kept.serves` answers every call;
* `IsUsable`, `usable_iff` — so these names are the ones whose table can be used, whatever is added and
  delivered to it;
* `unusable_capitals` — a name in other letters passes that no table can have as its lookup field.
-/
import DeliveryWatch.Proofs.Ledger.Contract
import DeliveryWatch.Proofs.Ledger.Made

namespace DeliveryWatch.Ledger

open Database Table Outcome

/-! ### Stores that serve -/

/-- The store answers every call on resources `r`, if the delay of the delivery has a place in a cell. -/
structure Serves {σ : Type} (store : Store σ) (r : σ) : Prop where
  validate : (store.validate r).result = .ok ()
  find : ∀ token, ∃ ping, (store.find token r).result = .ok ping
  record : ∀ d : Delivery, fitsCell d.delay = true → ∃ n, (store.record d r).result = .ok n

namespace PingTable

variable {table field n token : String} {p : PingTable} {db db' made : Database} {t : Table}
  {d : Delivery}

/-- What becomes of a database by pings that are added and delivered to. -/
inductive Reached (p : PingTable) (db : Database) : Database → Prop
  | start : Reached p db db
  | add {db₁ db₂ : Database} {token : String} :
      Reached p db db₁ → p.add token db₁ = .ok db₂ → Reached p db db₂
  | record {db₁ db₂ : Database} {d : Delivery} {n : Nat} :
      Reached p db db₁ → p.record d db₁ = .ok (db₂, n) → Reached p db db₂

/-- The table can be created, and from then on its store answers every call. -/
def IsUsable (p : PingTable) (db : Database) : Prop :=
  ∃ made, p.create db = .ok made ∧
    ∀ r : Premises, Reached p made r.database → Serves (p.store Premises.access) r

/-! ### Names that can be taken -/

/-- Names of tables: they are not too long, no table comes with the database under them, a statement can
name them, and the database does not keep them for itself. -/
structure TakesTable (name : String) : Prop where
  length_le : name.length ≤ nameLimit
  free : isVirtualName name = false
  stated : ∃ n, statementName name = .ok n ∧ isReservedName n = false

/-- Where something can be read in a database without tables, no table can be added. -/
theorem TakesTable.not_isReadable {name : String} (h : TakesTable name) :
    ({} : Database).isReadable name = false := by
  rw [Bool.eq_false_iff]
  intro hreadable
  rcases virtual_or_isReservedName hreadable with hvirtual | hreserved
  · rw [h.free] at hvirtual
    cases hvirtual
  · obtain ⟨n, hn, hnot⟩ := h.stated
    rw [hreserved n hn] at hnot
    cases hnot

theorem isTooLong_eq_false {name : String} : ({} : Database).isTooLong name = false ↔
    name.length ≤ nameLimit := by
  rw [isTooLong, Bool.true_and, decide_eq_false_iff_not, Nat.not_lt]

/-- Lookup fields: a statement can name them, and they are columns of pings to the letter or differ from
them by more than case. -/
def TakesField (name : String) : Prop :=
  ∃ f, statementName name = .ok f ∧
    (name ∈ pingColumns.map Column.name ∨ ∀ c ∈ pingColumns, sameName c.name f = false)

/-- No column occurs twice exactly if the lookup field can be taken. -/
theorem exists_stated_iff (hp : describe? (some table) (some field) = .ok p) :
    (∃ columns, p.columns.mapM stated = .ok columns ∧ distinctNames (columns.map Column.name) = true) ↔
      TakesField field := by
  have hfield := (names_of_describe? hp).2
  subst hfield
  constructor
  · rintro ⟨columns, hcolumns, hdistinct⟩
    rcases (mapM_stated_eq_ok hp).mp hcolumns with ⟨hknown, -⟩ | ⟨-, f, hf, rfl⟩
    · exact ⟨p.field, (findIdx?_pingColumns hknown).1, .inl hknown⟩
    · exact ⟨f, hf, .inr (distinctNames_own.mp hdistinct)⟩
  · rintro ⟨f, hf, hown⟩
    by_cases hknown : p.field ∈ pingColumns.map Column.name
    · exact ⟨_, (mapM_stated_eq_ok hp).mpr (.inl ⟨hknown, rfl⟩), by decide⟩
    · have hnew := hown.resolve_left hknown
      exact ⟨_, (mapM_stated_eq_ok hp).mpr (.inr ⟨hknown, f, hf, rfl⟩), distinctNames_own.mpr hnew⟩

/-- What a statement writes for the described columns has some column, and one key. -/
theorem keys_of_stated (hp : describe? (some table) (some field) = .ok p) {columns : List Column}
    (h : p.columns.mapM stated = .ok columns) :
    columns.isEmpty = false ∧ (columns.filter Column.isKey).length ≤ 1 := by
  rcases (mapM_stated_eq_ok hp).mp h with ⟨-, rfl⟩ | ⟨-, f, -, rfl⟩
  · decide
  · refine ⟨rfl, ?_⟩
    rw [List.filter_append]
    exact Nat.le_refl 1

/-- For names that can be taken the table is made, and it has no rows. -/
theorem exists_made (hp : describe? (some table) (some field) = .ok p) (ht : TakesTable table)
    (hf : TakesField field) : ∃ n made t, p.create {} = .ok made ∧ made.table? n = some t ∧
      p.IsMade n t ∧ t.rows = [] := by
  obtain ⟨n, hn, hreserved⟩ := ht.stated
  obtain ⟨columns, hcolumns, hdistinct⟩ := (exists_stated_iff hp).mpr hf
  obtain ⟨hsome, hkey⟩ := keys_of_stated hp hcolumns
  obtain ⟨rfl, -⟩ := names_of_describe? hp
  have hcreate : p.create {} = .ok { tables := [{ name := n, columns := columns }] } :=
    create_iff.mpr ⟨isTooLong_eq_false.mpr ht.length_le, .inr ⟨ht.not_isReadable, n, columns, hn, hcolumns,
      Database.create_eq_ok.mpr ⟨⟨rfl, rfl, hreserved, hsome, hdistinct, hkey, rfl⟩, rfl⟩⟩⟩
  have htable : Database.table? { tables := [{ name := n, columns := columns }] } n
      = some { name := n, columns := columns } :=
    List.find?_cons_of_pos (sameName_self n)
  exact ⟨n, _, _, hcreate, htable,
    ⟨hn, ⟨{}, _, _, rfl, hcreate, htable, rfl⟩, ⟨nofun, nofun, List.Pairwise.nil⟩⟩, rfl⟩

/-- A creation adds a table only if the names can be taken. -/
theorem takes_of_create (hp : describe? (some table) (some field) = .ok p)
    (h : p.create {} = .ok made) :
    made = {} ∧ ¬ TakesTable table ∨ TakesTable table ∧ TakesField field := by
  obtain ⟨rfl, -⟩ := names_of_describe? hp
  obtain ⟨hlength, hcases⟩ := create_iff.mp h
  rcases hcases with ⟨hreadable, hsame⟩ | ⟨hfree, n, columns, hn, hcolumns, hcreate⟩
  · refine .inl ⟨hsame, fun htakes => ?_⟩
    rw [htakes.not_isReadable] at hreadable
    cases hreadable
  · obtain ⟨⟨-, -, hreserved, -, hdistinct, -, -⟩, -⟩ := Database.create_eq_ok.mp hcreate
    -- a table that comes with the database could be read
    have heither : (schemaNames.any (sameName p.name) || isVirtualName p.name) = false := hfree
    exact .inr ⟨⟨isTooLong_eq_false.mp hlength, (Bool.or_eq_false_iff.mp heither).2, n, hn, hreserved⟩,
      (exists_stated_iff hp).mp ⟨columns, hcolumns, hdistinct⟩⟩

/-! ### What stays of the table -/

/-- The table that was made is there, and pings that wait in it were not received yet. -/
def Kept (p : PingTable) (n : String) (db : Database) : Prop :=
  ∃ t, db.table? n = some t ∧ p.IsMade n t ∧
    ∀ l ∈ linesOf t, l.seen = .int 0 → l.receivedTime = .null

/-- What is written has a place in cells. -/
theorem fits_of_record {k : Nat} (h : p.record d db = .ok (db', k)) : fitsCell d.delay = true := by
  obtain ⟨m, -, hchange⟩ := change_of_record h
  obtain ⟨t, t', -, hchange, -⟩ := Database.change_eq_ok.mp hchange
  obtain ⟨-, hcells, -⟩ := Table.change_eq_ok.mp hchange
  exact checkCells_written_iff.mp hcells

namespace Kept

theorem add (h : Kept p n db) (hp : describe? (some table) (some field) = .ok p)
    (hadd : p.add token db = .ok db') : Kept p n db' := by
  obtain ⟨t, ht, hm, hwait⟩ := h
  have hpings := hm.isPings hp
  obtain ⟨_, t', ht', hinsert, hlater⟩ := insert_of_add hm.name hadd
  cases ht.symm.trans ht'
  obtain ⟨hpings', -⟩ := hpings.insert_ping hinsert
  obtain ⟨-, -, -, k, -, -, -, rfl⟩ := Table.insert_eq_ok.mp hinsert
  refine ⟨_, hlater, hm.congr rfl hpings'.sound, ?_⟩
  intro l hl hseen
  obtain ⟨r, hr, rfl⟩ := List.mem_map.mp hl
  rcases mem_place.mp hr with rfl | hr
  · exact hpings.receivedTime_newRow token k
  · exact hwait _ (List.mem_map_of_mem hr) hseen

theorem record (h : Kept p n db) (hp : describe? (some table) (some field) = .ok p) {k : Nat}
    (hrecord : p.record d db = .ok (db', k)) : Kept p n db' := by
  obtain ⟨t, ht, hm, hwait⟩ := h
  obtain ⟨t', hwritten, hpings', hsame, hrows, hlines⟩ :=
    (hm.isPings hp).exists_record ht hm.name d (fits_of_record hrecord)
  cases hwritten.symm.trans hrecord
  refine ⟨t', table?_put ht hsame, hm.congr (by rw [hrows]) hpings'.sound, ?_⟩
  intro l' hl' hseen
  rw [hlines] at hl'
  obtain ⟨l, hl, rfl⟩ := List.mem_map.mp hl'
  by_cases hof : l.isOf d.token = true
  · rw [if_pos hof] at hseen
    cases hseen
  · rw [if_neg hof] at hseen ⊢
    exact hwait l hl hseen

theorem reached (h : Kept p n made) (hp : describe? (some table) (some field) = .ok p)
    (hreached : Reached p made db) : Kept p n db := by
  induction hreached with
  | start => exact h
  | add _ hadd ih => exact ih.add hp hadd
  | record _ hrecord ih => exact ih.record hp hrecord

theorem exists_find (h : Kept p n db) (hp : describe? (some table) (some field) = .ok p)
    (token : String) : ∃ ping, p.find token db = .ok ping := by
  obtain ⟨t, ht, hm, hwait⟩ := h
  have hpings := hm.isPings hp
  by_cases hreceived : p.field = receivedColumn
  · -- the received time of a ping that waits is shown as it is, because it is none
    have hcolumn : t.column? receivedColumn = some 5 := hpings.column?_eq (by decide)
    have hname : statementName p.field = .ok receivedColumn := by
      rw [hreceived]
      decide
    have hselect := hpings.select_of_column ht hm.name hname hcolumn token
    rw [find, hselect]
    cases hr : t.rows.find? fun r => (Line.ofRow r).isWaiting token with
    | none => exact ⟨none, rfl⟩
    | some r =>
      have hwaiting : (Line.ofRow r).isWaiting token = true :=
        List.find?_some (p := fun r => (Line.ofRow r).isWaiting token) hr
      rw [Line.isWaiting, Bool.and_eq_true, beq_iff_eq] at hwaiting
      have hnull : cell r 5 = .null :=
        hwait _ (List.mem_map_of_mem (List.mem_of_find?_eq_some hr)) hwaiting.2
      rw [Option.map_some, hnull, hreceived]
      exact ⟨_, rfl⟩
  · obtain ⟨f, hf, hplace⟩ := hm.column?_field hp
    exact ⟨_, hpings.find_of_column ht hm.name hf hplace hreceived token⟩

theorem serves {r : Premises} (h : Kept p n r.database)
    (hp : describe? (some table) (some field) = .ok p) : Serves (p.store Premises.access) r := by
  have hget : Premises.access.get r = r.database := rfl
  refine ⟨?_, h.exists_find hp, ?_⟩
  · obtain ⟨t, ht, hm, -⟩ := h
    rw [result_validate, hget]
    refine validate_eq_ok.mpr ⟨n, hm.name, ?_⟩
    rw [isReadable, ht]
    rfl
  · intro d hd
    obtain ⟨t, ht, hm, -⟩ := h
    obtain ⟨t', hrecord, -⟩ := (hm.isPings hp).exists_record ht hm.name d hd
    rw [result_record, hget, hrecord]
    exact ⟨_, rfl⟩

end Kept

/-! ### Usable tables -/

/-- A creation under a name that is not too long fails by a fault of the database only. -/
theorem operational_of_create {f : Database.Fault} (hlength : db.isTooLong p.name = false)
    (h : p.create db = .error f) : f = .operational := by
  rw [create, hlength] at h
  simp only [Bool.false_eq_true, if_false] at h
  split at h
  · cases h
  · rcases bind_eq_error.mp h with h | ⟨n, -, h⟩
    · exact operational_of_statementName h
    · rcases bind_eq_error.mp h with h | ⟨columns, -, h⟩
      · obtain ⟨c, -, hc⟩ := of_mapM_eq_error h
        rcases bind_eq_error.mp hc with hc | ⟨f, -, hc⟩
        · exact operational_of_statementName hc
        · cases hc
      · exact Database.operational_of_create h

/-- **Which names make a usable table.** A table that is described for configured names can be created in a
database without tables, and then its store answers every call, exactly if both names can be taken. Where
only the lookup field cannot, the creation fails. -/
theorem usable_iff (hp : describe? (some table) (some field) = .ok p) :
    (p.IsUsable {} ↔ TakesTable table ∧ TakesField field) ∧
      (TakesTable table ∧ ¬ TakesField field → p.create {} = .error .operational) := by
  refine ⟨⟨?_, ?_⟩, ?_⟩
  · rintro ⟨made, hcreate, hserves⟩
    rcases takes_of_create hp hcreate with ⟨rfl, -⟩ | htakes
    · -- nothing was created, so no lookup has a table
      obtain ⟨ping, hfind⟩ : ∃ ping, p.find "" {} = .ok ping :=
        (hserves { database := {}, now := Ledger.Sample.noon } .start).find ""
      obtain ⟨n, t, -, ht⟩ := exists_table_of_find hfind
      exact absurd ht (Option.some_ne_none t).symm
    · exact htakes
  · rintro ⟨htable, hfield⟩
    obtain ⟨n, made, t, hcreate, ht, hm, hrows⟩ := exists_made hp htable hfield
    have hkept : Kept p n made := by
      refine ⟨t, ht, hm, ?_⟩
      rw [linesOf, hrows]
      intro l hl
      cases hl
    exact ⟨made, hcreate, fun r hr => (hkept.reached hp hr).serves hp⟩
  · rintro ⟨htable, hfield⟩
    cases hcreate : p.create {} with
    | error f =>
      obtain ⟨rfl, -⟩ := names_of_describe? hp
      rw [operational_of_create (isTooLong_eq_false.mpr htable.length_le) hcreate]
    | ok made =>
      rcases takes_of_create hp hcreate with ⟨-, hnot⟩ | ⟨-, htakes⟩
      · exact absurd htable hnot
      · exact absurd htakes hfield

/-- The table of the usual names can be used. -/
theorem usable_pings : describe? (some "pings") (some "guid") = .ok Ledger.Sample.pings ∧
    Ledger.Sample.pings.IsUsable {} := by
  have hp : describe? (some "pings") (some "guid") = .ok Ledger.Sample.pings := by decide
  refine ⟨hp, (usable_iff hp).1.mpr ⟨⟨by decide, by decide, "pings", by decide, by decide⟩,
    "guid", by decide, .inl ?_⟩⟩
  decide

namespace Sample

/-- A table whose lookup field is the token in capitals. -/
def capitals : PingTable := ⟨"pings", "GUID", pingColumns ++ [{ name := "GUID", type := "TEXT" }]⟩

end Sample

/-- The name of a column in other letters passes as a lookup field, and no table can be created with it. -/
theorem unusable_capitals : describe? (some "pings") (some "GUID") = .ok Sample.capitals ∧
    Sample.capitals.create {} = .error .operational ∧ ¬ Sample.capitals.IsUsable {} := by
  have hcreate : Sample.capitals.create {} = .error .operational := by decide +kernel
  refine ⟨by decide, hcreate, ?_⟩
  rintro ⟨made, hmade, -⟩
  cases hcreate.symm.trans hmade

end PingTable

end DeliveryWatch.Ledger
