/-
The rows of the mail table under the statements of the pipeline, whatever this table is like.

* `exists_place_of_insert` — a message that is stored adds one row, and the rows before it stay;
* `insert_ne_ok_of_isPings` — none is stored where the table of mail is one of pings;
* `isReported_of_insert` — the database reports why it does not take a message;
* `length_mailRows_of_record` — writing a delivery adds no row, also where the pings are in the mail
  table.
-/
import DeliveryWatch.Proofs.Pipeline.Failure

namespace DeliveryWatch

open Database Ledger Outcome

/-! ### Statements on a table -/

namespace Database.Table

theorem sublist_place (r : Row) (rs : List Row) : rs.Sublist (place r rs) := by
  induction rs with
  | nil => exact List.nil_sublist _
  | cons s rs ih =>
    rw [place]
    by_cases h : r.number < s.number
    · rw [if_pos h]
      exact List.sublist_cons_self r (s :: rs)
    · rw [if_neg h]
      exact ih.cons_cons s

theorem rows_of_change {t t' : Table} {cells conditions : List (String × Value)} {n : Nat}
    (h : t.change cells conditions = .ok (t', n)) :
    t'.name = t.name ∧ t'.rows.length = t.rows.length := by
  obtain ⟨-, -, -, -, ⟨rows, hrows, rfl⟩, -⟩ := change_eq_ok.mp h
  obtain ⟨number, hperm⟩ := perm_of_renumber hrows
  refine ⟨rfl, ?_⟩
  show rows.length = t.rows.length
  rw [hperm.length_eq, List.length_map, changedRows, List.length_map]

theorem rows_of_insert {t t' : Table} {cells : List (String × Value)}
    (h : t.insert cells = .ok t') : t'.name = t.name ∧ ∃ r, t'.rows = place r t.rows := by
  obtain ⟨-, -, -, n, -, -, -, rfl⟩ := insert_eq_ok.mp h
  exact ⟨rfl, _, rfl⟩

/-- An insertion of values that all have a place in cells fails by a fault that the database reports. -/
theorem isReported_of_insert {t : Table} {cells : List (String × Value)} {f : Fault}
    (hcells : checkCells cells = .ok ()) (h : t.insert cells = .error f) : f.isReported = true := by
  have hnumber : ∀ {values g}, t.numberOf values = .error g → g.isReported = true := by
    intro values g hg
    rw [numberOf] at hg
    split at hg
    · cases hg
    · split at hg
      · cases hg
      · cases hg
      · cases hg
        rfl
  -- the steps of the insertion in turn: only the check of the cells could fail otherwise
  rw [insert] at h
  split at h
  · cases h
    rfl
  · rcases bind_eq_error.mp h with h | ⟨_, -, h⟩
    · exact isReported_of_checkColumns h
    · rcases bind_eq_error.mp h with h | ⟨_, -, h⟩
      · rw [hcells] at h
        cases h
      · rcases bind_eq_error.mp h with h | ⟨n, -, h⟩
        · exact hnumber h
        · simp only at h
          split at h
          · cases h
            rfl
          · split at h
            · cases h
              rfl
            · cases h

end Database.Table

/-! ### The mail table -/

theorem Database.table?_of_sameName {n name : String} (h : sameName n name = true) (db : Database) :
    db.table? name = db.table? n := by
  simp only [table?]
  congr 1
  funext t
  exact (sameName_congr_right h t.name).symm

theorem mailRows_of_table? {db : Database} {t : Table} (h : db.table? MailTable.name = some t) :
    mailRows db = t.rows := by
  rw [mailRows, h]
  rfl

theorem length_mailRows_of_record {p : PingTable} {d : Delivery} {db db' : Database} {k : Nat}
    (h : p.record d db = .ok (db', k)) : (mailRows db').length = (mailRows db).length := by
  obtain ⟨n, hn, hchange⟩ := PingTable.change_of_record h
  cases hsame : sameName n MailTable.name with
  | false => rw [mailRows, mailRows, PingTable.table?_of_record_other h hn hsame]
  | true =>
    -- the pings are in the mail table itself
    obtain ⟨t, t', ht, ht', rfl⟩ := change_eq_ok.mp hchange
    rw [← table?_of_sameName hsame] at ht
    obtain ⟨hname, hlength⟩ := Table.rows_of_change ht'
    have hsame' : sameName t'.name MailTable.name = true := by
      rw [hname]
      exact sameName_of_table? ht
    rw [mailRows_of_table? ht, mailRows_of_table? (table?_put ht hsame'), hlength]

/-- A message that is stored adds one row, and changes no table but that of mail. -/
theorem exists_place_of_insert {e : Envelope} {db db' : Database} (h : MailTable.insert db e = .ok db') :
    (∃ r, mailRows db' = Table.place r (mailRows db)) ∧
      ∀ name, sameName MailTable.name name = false → db'.table? name = db.table? name := by
  rw [MailTable.insert] at h
  obtain ⟨_, -, h⟩ := bind_eq_ok.mp h
  obtain ⟨_, -, h⟩ := bind_eq_ok.mp h
  split at h
  · obtain ⟨t, t', ht, ht', rfl⟩ := Database.insert_eq_ok.mp h
    obtain ⟨hname, r, hrows⟩ := Table.rows_of_insert ht'
    have hsame : sameName t'.name MailTable.name = true := by
      rw [hname]
      exact sameName_of_table? ht
    refine ⟨⟨r, ?_⟩, fun name hother => table?_put_other db ?_⟩
    · rw [mailRows_of_table? ht, mailRows_of_table? (table?_put ht hsame), hrows]
    · exact (sameName_congr hsame name).trans hother
  · cases h

/-- A table of pings takes no message, whatever its other columns are: a message has no token. -/
theorem insert_ne_ok_of_isPings {db : Database}
    (hpings : ∀ t, db.table? MailTable.name = some t → IsPings t) (e : Envelope) (db' : Database) :
    MailTable.insert db e ≠ .ok db' := by
  intro h
  rw [MailTable.insert] at h
  obtain ⟨_, -, h⟩ := bind_eq_ok.mp h
  obtain ⟨_, -, h⟩ := bind_eq_ok.mp h
  split at h
  · rename_i v _
    obtain ⟨t, t', ht, hinsert, -⟩ := Database.insert_eq_ok.mp h
    have hp := hpings t ht
    obtain ⟨-, -, -, k, -, hkept, -⟩ := Table.insert_eq_ok.mp hinsert
    rw [hp.keepsColumns_eq _ (by simp [Table.newRow, Table.withNumber, Table.newValues]),
      Bool.and_eq_true] at hkept
    obtain ⟨extra, he, -⟩ := hp.columns
    -- a message gives no cell to the token, and so this one would be missing
    have hnull : Table.cell (t.newRow (MailTable.cells e v) k) 0 = .null := by
      rw [Table.cell, Table.newRow, Table.withNumber, Table.newValues, he]
      rfl
    rw [hnull] at hkept
    exact Bool.false_ne_true hkept.1
  · cases h

/-- A message whose annotations have a place in cells is stored, or the database reports why not. -/
theorem isReported_of_insert {e : Envelope} {db : Database} {f : Database.Fault}
    (he : MailTable.HasCell e) (h : MailTable.insert db e = .error f) : f.isReported = true := by
  obtain ⟨v, hv, hfit⟩ := he
  -- the only number among the cells of a message is an annotation
  have hcells : Table.checkCells (MailTable.cells e v) = .ok () := by
    refine Table.checkCells_eq_ok.mpr ?_
    intro name n hmem
    have hn : name = "message_id" ∧ v = .int n := by
      simpa [MailTable.cells, (MailTable.ofText?_ne_int _ n).symm, eq_comm] using hmem
    exact hfit n hn.2
  rw [MailTable.insert] at h
  rcases bind_eq_error.mp h with h | ⟨t, -, h⟩
  · exact isReported_of_demand h
  · rcases bind_eq_error.mp h with h | ⟨_, -, h⟩
    · exact Table.isReported_of_checkColumns h
    · rw [hv] at h
      rcases bind_eq_error.mp h with h | ⟨u, -, h⟩
      · exact isReported_of_demand h
      · rcases bind_eq_error.mp h with h | ⟨u', -, h⟩
        · exact Table.isReported_of_insert hcells h
        · cases h

end DeliveryWatch
