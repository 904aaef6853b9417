/-
What the operations of a table of pings fail with.

* `record_eq_error`, `find_eq_error` — an operation fails by an account of itself, or else by one fault
  that the database does not report;
* `update_eq_tooLarge`, `find_eq_other` — where this fault appears;
* `change_of_record`, `select_of_find` — what an operation asks of the table that does not fail;
* `validate_eq_ok` — what the check asks for;
* `faults_of_store` — these are all of them, and an operation that fails changes nothing.
-/
import DeliveryWatch.Proofs.Ledger.Book

namespace DeliveryWatch

open Database Ledger Outcome

namespace Ledger.PingTable

variable {p : PingTable} {db : Database} {d : Delivery} {token : String}

/-! ### Write-backs -/

/-- The columns that a delivery is written to. -/
def writtenColumns : List String := ["time_taken", "header", "body", receivedColumn, seenColumn]

theorem map_written (d : Delivery) : (written d).map (·.1) = writtenColumns := rfl

theorem checkCells_written_iff :
    Table.checkCells (written d ++ [(tokenColumn, .text d.token)]) = .ok () ↔
      fitsCell d.delay = true := by
  refine ⟨?_, checkCells_written d⟩
  intro h
  exact Table.checkCells_eq_ok.mp h "time_taken" d.delay List.mem_cons_self

theorem update_eq_tooLarge : p.update d db = .error .tooLarge ↔ fitsCell d.delay = false ∧
    ∃ n t, statementName p.name = .ok n ∧ db.table? n = some t ∧
      ∀ name ∈ writtenColumns ++ [tokenColumn], (t.column? name).isSome = true := by
  have hcells : Table.checkCells (written d ++ [(tokenColumn, .text d.token)]) ≠ .ok () ↔
      fitsCell d.delay = false := by
    rw [ne_eq, checkCells_written_iff, Bool.not_eq_true]
  constructor
  · intro h
    -- everything before the change itself fails by a fault that the database reports
    rcases bind_eq_error.mp h with h | ⟨n, hn, h⟩
    · cases isReported_of_statementName h
    · rcases bind_eq_error.mp h with h | ⟨t, ht, h⟩
      · cases isReported_of_demand h
      · rcases bind_eq_error.mp h with h | ⟨x, -, h⟩
        · obtain ⟨hcolumns, hlarge⟩ := Table.change_eq_tooLarge.mp h
          exact ⟨hcells.mp hlarge, n, t, hn, demand_eq_ok.mp ht, Table.checkColumns_eq_ok.mp hcolumns⟩
        · cases h
  · rintro ⟨hlarge, n, t, hn, ht, hcolumns⟩
    have hchange : t.change (written d) [(tokenColumn, .text d.token)] = .error .tooLarge :=
      Table.change_eq_tooLarge.mpr ⟨Table.checkColumns_eq_ok.mpr hcolumns, hcells.mpr hlarge⟩
    exact bind_eq_error.mpr (.inr ⟨n, hn, bind_eq_error.mpr (.inr ⟨t, demand_eq_ok.mpr ht,
      bind_eq_error.mpr (.inl hchange)⟩)⟩)

/-- What a successful write-back does. -/
theorem change_of_record {db' : Database} {k : Nat} (h : p.record d db = .ok (db', k)) :
    ∃ n, statementName p.name = .ok n ∧
      db.change n (written d) [(tokenColumn, .text d.token)] = .ok (db', k) := by
  rw [record] at h
  split at h
  · rename_i r hr
    cases h
    exact bind_eq_ok.mp hr
  · cases h

/-- A write-back fails by an account of the update, or by a number that is too large. -/
theorem record_eq_error {f : DeliveryWatch.Fault} (h : p.record d db = .error f) :
    (∃ text, f = .update text) ∨ f = .tooLarge ∧ p.update d db = .error .tooLarge := by
  rw [record] at h
  split at h
  · cases h
  · rename_i g hg
    cases h
    cases g with
    | tooLarge => exact .inr ⟨rfl, hg⟩
    | operational => exact .inl ⟨_, rfl⟩
    | integrity => exact .inl ⟨_, rfl⟩
    | unbindable => exact .inl ⟨_, rfl⟩
    | nameTooLong => exact .inl ⟨_, rfl⟩

theorem record_eq_tooLarge :
    p.record d db = .error .tooLarge ↔ p.update d db = .error .tooLarge := by
  constructor
  · intro h
    rcases record_eq_error h with ⟨text, htext⟩ | ⟨-, hupdate⟩
    · cases htext
    · exact hupdate
  · intro h
    rw [record, h]
    rfl

/-! ### Lookups -/

/-- A value that is no time: a number, bytes, or text that writes none. -/
inductive IsTimeless : Value → Prop
  | int (n : Int) : IsTimeless (.int n)
  | real (x : Fractional) : IsTimeless (.real x)
  | blob (bytes : List UInt8) : IsTimeless (.blob bytes)
  | text {s : String} {f : IsoText.Fault} (h : IsoText.timeOf s = .error f) : IsTimeless (.text s)

/-- Only a received time that is none cannot be shown. -/
theorem exists_shownValue_eq_error {field : String} {v : Value} :
    (∃ f, shownValue field v = .error f) ↔ field = receivedColumn ∧ IsTimeless v := by
  constructor
  · rintro ⟨f, h⟩
    rw [shownValue.eq_def] at h
    split at h
    · rename_i hfield
      refine ⟨hfield, ?_⟩
      -- only the column of the received time asks anything of a value
      cases v with
      | null => cases h
      | int n => exact .int n
      | real x => exact .real x
      | blob bytes => exact .blob bytes
      | text s =>
        cases hs : IsoText.timeOf s with
        | ok t =>
          simp only [hs] at h
          cases h
        | error g => exact .text hs
    · cases h
  · rintro ⟨rfl, htimeless⟩
    cases htimeless with
    | int n => exact ⟨_, rfl⟩
    | real x => exact ⟨_, rfl⟩
    | blob bytes => exact ⟨_, rfl⟩
    | text hs =>
      rw [shownValue.eq_def, if_pos rfl]
      simp only [hs]
      exact ⟨_, rfl⟩

theorem isReported_of_select {f : Database.Fault} (h : p.select token db = .error f) :
    f.isReported = true := by
  have hfit : Table.checkCells (unseen token) = .ok () := rfl
  rcases bind_eq_error.mp h with h | ⟨n, -, h⟩
  · exact isReported_of_statementName h
  · rcases bind_eq_error.mp h with h | ⟨field, -, h⟩
    · exact isReported_of_statementName h
    · rcases bind_eq_error.mp h with h | ⟨t, -, h⟩
      · exact isReported_of_demand h
      · rcases bind_eq_error.mp h with h | ⟨read, -, h⟩
        · exact Table.isReported_of_reader h
        · rcases bind_eq_error.mp h with h | ⟨_, -, h⟩
          · exact Table.isReported_of_checkColumns h
          · rw [hfit] at h
            cases h

/-- A lookup fails by an account of the lookup, or by a received time that is none. -/
theorem find_eq_error {f : DeliveryWatch.Fault} (h : p.find token db = .error f) :
    (∃ text, f = .lookup text) ∨ (∃ kind text, f = .other kind text) ∧
      ∃ v, p.select token db = .ok (some v) ∧ shownValue p.field v = .error f := by
  rw [find] at h
  split at h
  · rename_i g hg
    cases h
    rw [statementFault, if_pos (isReported_of_select hg)]
    exact .inl ⟨_, rfl⟩
  · cases h
  · rename_i v hv
    rcases bind_eq_error.mp h with hshown | ⟨shown, -, h⟩
    · exact .inr ⟨other_of_shownValue hshown, v, hv, hshown⟩
    · cases h

theorem find_eq_other : (∃ kind text, p.find token db = .error (.other kind text)) ↔
    p.field = receivedColumn ∧ ∃ v, p.select token db = .ok (some v) ∧ IsTimeless v := by
  constructor
  · rintro ⟨kind, text, h⟩
    rcases find_eq_error h with ⟨other, hother⟩ | ⟨-, v, hv, hshown⟩
    · cases hother
    · obtain ⟨hfield, htimeless⟩ := exists_shownValue_eq_error.mp ⟨_, hshown⟩
      exact ⟨hfield, v, hv, htimeless⟩
  · rintro ⟨hfield, v, hv, htimeless⟩
    obtain ⟨f, hf⟩ := exists_shownValue_eq_error.mpr ⟨hfield, htimeless⟩
    obtain ⟨kind, text, rfl⟩ := other_of_shownValue hf
    refine ⟨kind, text, ?_⟩
    rw [find, hv]
    simp only [hf]
    rfl

theorem select_of_find {found : Option Ping} (h : p.find token db = .ok found) :
    ∃ n field v, statementName p.name = .ok n ∧ statementName p.field = .ok field ∧
      db.first? n field (unseen token) = .ok v ∧ v.isSome = found.isSome := by
  rw [find] at h
  split at h
  · cases h
  · rename_i hs
    cases h
    -- both names were written into the statement before the question was asked
    obtain ⟨n, hn, hs⟩ := bind_eq_ok.mp hs
    obtain ⟨field, hfield, hs⟩ := bind_eq_ok.mp hs
    exact ⟨n, field, none, hn, hfield, hs, rfl⟩
  · rename_i v hs
    obtain ⟨n, hn, hs⟩ := bind_eq_ok.mp hs
    obtain ⟨field, hfield, hs⟩ := bind_eq_ok.mp hs
    obtain ⟨shown, -, h⟩ := bind_eq_ok.mp h
    cases h
    exact ⟨n, field, some v, hn, hfield, hs, rfl⟩

theorem exists_table_of_find {found : Option Ping} (h : p.find token db = .ok found) :
    ∃ n t, statementName p.name = .ok n ∧ db.table? n = some t := by
  obtain ⟨n, field, v, hn, -, hfirst, -⟩ := select_of_find h
  obtain ⟨t, ht, -⟩ := bind_eq_ok.mp hfirst
  exact ⟨n, t, hn, demand_eq_ok.mp ht⟩

/-! ### The check -/

theorem validate_eq_ok : p.validate db = .ok () ↔
    ∃ n, statementName p.name = .ok n ∧ db.isReadable n = true := by
  rw [validate]
  cases statementName p.name with
  | error f => exact ⟨nofun, nofun⟩
  | ok n =>
    simp only
    split
    · rename_i h
      exact ⟨fun _ => ⟨n, rfl, h⟩, fun _ => rfl⟩
    · rename_i h
      refine ⟨nofun, ?_⟩
      rintro ⟨_, ⟨⟩, h'⟩
      exact absurd h' h

theorem validate_eq_error {f : DeliveryWatch.Fault} (h : p.validate db = .error f) :
    ∃ text, f = .lookup text := by
  rw [validate] at h
  split at h
  · split at h
    · cases h
    · cases h
      exact ⟨_, rfl⟩
  · cases h
    exact ⟨_, rfl⟩

/-! ### The store -/

variable {σ : Type}

theorem result_record (access : Access σ) (d : Delivery) (r : σ) :
    ((p.store access).record d r).result = (p.record d (access.get r)).map Prod.snd := by
  simp only [store]
  cases p.record d (access.get r) with
  | error f => rfl
  | ok x =>
    obtain ⟨db', k⟩ := x
    cases k with
    | zero => rfl
    | succ k => rfl

theorem resources_record (d : Delivery) (r : Premises) :
    ((p.store Premises.access).record d r).resources =
      match p.record d r.database with
      | .ok (db, _) => { r with database := db }
      | .error _ => r := by
  have hget : Premises.access.get r = r.database := rfl
  simp only [store, hget]
  cases p.record d r.database with
  | error f => rfl
  | ok x =>
    obtain ⟨db, k⟩ := x
    cases k with
    | zero => rfl
    | succ k => rfl

theorem result_validate (access : Access σ) (r : σ) :
    ((p.store access).validate r).result = p.validate (access.get r) := by
  simp only [store]
  cases p.validate (access.get r) with
  | error f => rfl
  | ok u => rfl

theorem resources_validate (access : Access σ) (r : σ) :
    ((p.store access).validate r).resources = r := by
  simp only [store]
  split
  · rfl
  · rfl

theorem result_record_eq_error {access : Access σ} {r : σ} {f : DeliveryWatch.Fault} :
    ((p.store access).record d r).result = .error f ↔ p.record d (access.get r) = .error f := by
  rw [result_record]
  cases p.record d (access.get r) with
  | error g =>
    constructor
    · intro h
      cases h
      rfl
    · intro h
      cases h
      rfl
  | ok x => exact ⟨nofun, nofun⟩

/-- What the operations of a store of pings fail with, on resources `r`. -/
structure Faults (p : PingTable) (access : Access σ) (r : σ) : Prop where
  /-- The check fails by an account of a lookup. -/
  validate : ∀ f, ((p.store access).validate r).result = .error f → ∃ text, f = .lookup text
  /-- So does a lookup, or else a fault passes through that nobody expects. -/
  find : ∀ token f, ((p.store access).find token r).result = .error f →
    (∃ text, f = .lookup text) ∨ ∃ kind text, f = .other kind text
  /-- The latter happens exactly if the lookup field is the received time, and the ping that waits has
  a value there that is no time. -/
  timeless : ∀ token, (∃ kind text, ((p.store access).find token r).result = .error (.other kind text)) ↔
    p.field = receivedColumn ∧
      ∃ v, p.select token (access.get r) = .ok (some v) ∧ IsTimeless v
  /-- A write-back fails by an account of an update, or else by a number that is too large. -/
  record : ∀ d f, ((p.store access).record d r).result = .error f →
    (∃ text, f = .update text) ∨ f = .tooLarge
  /-- The latter happens exactly if the delay has no place in a cell, and all columns are there. -/
  tooLarge : ∀ d, ((p.store access).record d r).result = .error .tooLarge ↔ fitsCell d.delay = false ∧
    ∃ n t, statementName p.name = .ok n ∧ (access.get r).table? n = some t ∧
      ∀ name ∈ writtenColumns ++ [tokenColumn], (t.column? name).isSome = true
  /-- The check and a lookup change nothing, and no more does a write-back that fails. -/
  unchanged : ((p.store access).validate r).resources = r ∧
    (∀ token, ((p.store access).find token r).resources = r) ∧
    ∀ d f, ((p.store access).record d r).result = .error f → ((p.store access).record d r).resources = r

/-- **The faults of a store of pings.** Whatever the database holds, and whatever table and lookup field
were configured, only two things leave an operation otherwise than as its own account: a received time
that is none, and a delay that is too large. What fails leaves everything as it was. -/
theorem faults_of_store (p : PingTable) (access : Access σ) (r : σ) : Faults p access r := by
  refine ⟨?_, ?_, ?_, ?_, ?_, ?_, ?_, ?_⟩
  · intro f h
    rw [result_validate] at h
    exact validate_eq_error h
  · intro token f h
    exact (find_eq_error h).imp_right And.left
  · intro token
    exact find_eq_other
  · intro d f h
    exact (record_eq_error (result_record_eq_error.mp h)).imp_right And.left
  · intro d
    rw [result_record_eq_error, record_eq_tooLarge, update_eq_tooLarge]
  · exact resources_validate access r
  · intro token
    rfl
  · intro d f h
    have hrecord := result_record_eq_error.mp h
    simp only [store, hrecord]

namespace Sample

/-- Premises with a ping whose received time is none. -/
def hasty : Premises where
  database := { tables := [{ Ledger.Sample.table with
    rows := [⟨1, [.text "x", .int 0, .null, .null, .null, .text "soon"]⟩] }] }
  now := Ledger.Sample.noon

end Sample

/-- A delay that has no place in a cell cannot be written, and a received time that is none cannot be looked
up. Both faults are no account of the store. -/
theorem stray_faults :
    ((Ledger.Sample.pings.store Premises.access).record
        { Stage.delivery "x" "Subject: guid: x\n\nhello" Ledger.Sample.noon with delay := cellLimit }
        Sample.hasty).result = .error (.other "OverflowError"
          "Python int too large to convert to SQLite INTEGER") ∧
      PingTable.describe? (some "pings") (some receivedColumn)
        = .ok { Ledger.Sample.pings with field := receivedColumn } ∧
      (({ Ledger.Sample.pings with field := receivedColumn }.store Premises.access).find "x"
        Sample.hasty).result
        = .error (.other "ValueError" "Invalid isoformat string: 'soon'") := by
  refine ⟨?_, ?_, ?_⟩
  · decide +kernel
  · decide +kernel
  · decide +kernel

end Ledger.PingTable

end DeliveryWatch
