/-
What the statements on a table of pings do to its lines.

* `ofRow_changeRow` — a delivery that is written to a row changes its line and nothing else;
* `change_written` — the change that writes a delivery always succeeds on a table of pings;
* `first?_unseen` — a lookup answers the first line of the token that waits;
* `isOf_eq_isWaiting` — where a line of a token waits, it is the only line of the token;
* `insert_ping` — a ping that was just added waits; `insert_of_add` — where it is added.
-/
import DeliveryWatch.Proofs.Ledger.Line
import DeliveryWatch.Proofs.Time.LedgerText

namespace DeliveryWatch.Ledger

open Database Table

/-! ### Writing a delivery -/

/-- A delivery writes to columns of pings only. -/
theorem given?_written_of_isExtra (d : Delivery) {c : Column} (hc : isExtra c = true) :
    given? (PingTable.written d) c = none := by
  -- an extra column has none of the names that a delivery writes to
  have hnames : ∀ e ∈ pingColumns, sameName e.name c.name = false := by
    intro e he
    rw [isExtra] at hc
    rw [Bool.and_eq_true] at hc
    have := List.all_eq_true.mp hc.2 e he
    rw [Bool.not_eq_true', sameName_comm] at this
    exact this
  refine given?_eq_none ?_
  intro n hn
  have hall : ((PingTable.written d).map (·.1)).all
      (fun n => pingColumns.any fun e => e.name == n) = true := by rfl
  obtain ⟨e, he, heq⟩ := List.any_eq_true.mp (List.all_eq_true.mp hall n hn)
  rw [← eq_of_beq heq]
  exact hnames e he

theorem store_ledgerText (t : Time) :
    Affinity.numeric.store (.text t.ledgerText) = .text t.ledgerText := by
  have hstore : ∀ s, Affinity.numeric.store (.text s) = (numberOfText? s).getD (.text s) := by
    intro s
    rfl
  rw [hstore, Time.numberOfText?_ledgerText]
  rfl

theorem zipWith_written (d : Delivery) (v0 v1 v2 v3 v4 v5 : Value) :
    List.zipWith (fun (c : Column) v =>
        ((given? (PingTable.written d) c).map c.affinity.store).getD v)
      pingColumns [v0, v1, v2, v3, v4, v5] =
      [v0, .int 1, .int d.delay, .text d.header, .text d.body,
        .text d.receivedTime.ledgerText] := by
  -- the column of times stores the text as it is, so the rest holds of any text in its place
  rw [← store_ledgerText d.receivedTime]
  generalize hs : d.receivedTime.ledgerText = s
  rw [PingTable.written]
  rw [hs]
  rfl

theorem checkCells_written (d : Delivery) (hd : fitsCell d.delay = true) :
    checkCells (PingTable.written d ++ [(tokenColumn, .text d.token)]) = .ok () := by
  refine checkCells_eq_ok.mpr ?_
  intro name n hmem
  have hn : n = d.delay ∨ n = 1 := by
    have : name = "time_taken" ∧ n = d.delay ∨ name = "seen" ∧ n = 1 := by
      simpa [PingTable.written, seenColumn] using hmem
    exact this.imp And.right And.right
  rcases hn with rfl | rfl
  · exact hd
  · decide

namespace IsPings

variable {t : Table}

/-- A delivery that is written to a row changes its line and nothing else. -/
theorem ofRow_changeRow (h : IsPings t) (d : Delivery) {r : Row}
    (hw : r.values.length = t.columns.length) :
    Line.ofRow (t.changeRow (PingTable.written d) r) = (Line.ofRow r).receive d := by
  obtain ⟨extra, he, hx⟩ := h.columns
  obtain ⟨n, vs⟩ := r
  obtain ⟨v0, v1, v2, v3, v4, v5, rest, rfl, hlen⟩ := exists_cells he hw
  -- what stands behind the columns of pings keeps its cells
  have hrest : List.zipWith (fun (c : Column) v =>
      ((given? (PingTable.written d) c).map c.affinity.store).getD v) extra rest = rest := by
    refine List.ext_getElem (by simp [hlen]) ?_
    intro i h1 h2
    have hi : i < extra.length := by omega
    have hc := given?_written_of_isExtra d (List.all_eq_true.mp hx extra[i] (List.getElem_mem hi))
    rw [List.getElem_zipWith, hc]
    rfl
  have hvalues : (t.changeRow (PingTable.written d) ⟨n, [v0, v1, v2, v3, v4, v5] ++ rest⟩).values
      = [v0, .int 1, .int d.delay, .text d.header, .text d.body,
          .text d.receivedTime.ledgerText] ++ rest := by
    rw [changeRow]
    simp only
    rw [he, List.zipWith_append (by rfl), hrest, zipWith_written]
  simp only [Line.ofRow, Line.receive, cell]
  rw [hvalues]
  rfl

/-- The rows that the change goes to are those whose lines are of the token. -/
theorem changedRows_written (h : IsPings t) (d : Delivery) :
    t.changedRows (PingTable.written d) [(tokenColumn, .text d.token)] = t.rows.map fun r =>
      if (Line.ofRow r).isOf d.token then t.changeRow (PingTable.written d) r else r := by
  rw [changedRows]
  simp only [h.meets_token]

theorem linesOf_changed (h : IsPings t) (d : Delivery) :
    (t.changedRows (PingTable.written d) [(tokenColumn, .text d.token)]).map Line.ofRow
      = (linesOf t).map fun l => if l.isOf d.token then l.receive d else l := by
  rw [h.changedRows_written]
  rw [linesOf]
  rw [List.map_map, List.map_map]
  refine List.map_congr_left ?_
  intro r hr
  simp only [Function.comp_apply]
  by_cases hi : (Line.ofRow r).isOf d.token = true
  · rw [if_pos hi, if_pos hi]
    exact h.ofRow_changeRow d (h.sound.width r hr)
  · rw [if_neg hi, if_neg hi]

theorem cell_changed (h : IsPings t) (d : Delivery) {r : Row} (hr : r ∈ t.rows) :
    cell (t.changeRow (PingTable.written d) r) 0 = cell r 0 ∧
      cell (t.changeRow (PingTable.written d) r) 1 = .int 1 := by
  have hline := h.ofRow_changeRow d (h.sound.width r hr)
  exact ⟨congrArg Line.token hline, congrArg Line.seen hline⟩

theorem checkColumns_written (h : IsPings t) (d : Delivery) :
    t.checkColumns ((PingTable.written d).map (·.1) ++ [tokenColumn]) = .ok () := by
  have hnames : (PingTable.written d).map (·.1) ++ [tokenColumn]
      = ["time_taken", "header", "body", "received_time", "seen", "guid"] := by rfl
  have hin : ["time_taken", "header", "body", "received_time", "seen", "guid"].all (fun n =>
      (pingColumns.findIdx? fun c => sameName c.name n).isSome) = true := by decide
  refine checkColumns_eq_ok.mpr ?_
  intro n hn
  rw [hnames] at hn
  obtain ⟨i, hi⟩ := Option.isSome_iff_exists.mp (List.all_eq_true.mp hin n hn)
  rw [h.column?_eq hi]
  rfl

theorem keepsColumns_changed (h : IsPings t) (d : Delivery) :
    ∀ r' ∈ t.changedRows (PingTable.written d) [(tokenColumn, .text d.token)],
      t.keepsColumns r' = true := by
  intro r' hr'
  rw [h.changedRows_written] at hr'
  obtain ⟨r, hr, rfl⟩ := List.mem_map.mp hr'
  have hkept := h.sound.kept r hr
  by_cases hi : (Line.ofRow r).isOf d.token = true
  · rw [if_pos hi]
    obtain ⟨h0, h1⟩ := h.cell_changed d hr
    rw [h.keepsColumns_eq _ (h.sound.width r hr), Bool.and_eq_true] at hkept
    rw [h.keepsColumns_eq _ (by simp [changeRow, h.sound.width r hr]), h0, h1, hkept.1]
    rfl
  · rw [if_neg hi]
    exact hkept

theorem distinct_changed (h : IsPings t) (d : Delivery) :
    (t.changedRows (PingTable.written d) [(tokenColumn, .text d.token)]).Pairwise
      fun r s => t.clash r s = false := by
  have hcell : ∀ u ∈ t.rows, cell (if (Line.ofRow u).isOf d.token then
      t.changeRow (PingTable.written d) u else u) 0 = cell u 0 := by
    intro u hu
    by_cases hi : (Line.ofRow u).isOf d.token = true
    · rw [if_pos hi]
      exact (h.cell_changed d hu).1
    · rw [if_neg hi]
  rw [h.changedRows_written, List.pairwise_map]
  refine h.sound.distinct.imp_of_mem ?_
  intro r s hr hs hrs
  rw [h.clash_eq] at hrs ⊢
  rw [hcell r hr, hcell s hs]
  exact hrs

/-- The change that writes a delivery always succeeds, and changes rows only. -/
theorem change_written (h : IsPings t) (d : Delivery) (hd : fitsCell d.delay = true) :
    ∃ t', t.change (PingTable.written d) [(tokenColumn, .text d.token)]
        = .ok (t', ((linesOf t).filter (Line.isOf d.token)).length) ∧
      IsPings t' ∧ t' = { t with rows := t'.rows } ∧
      linesOf t' = (linesOf t).map fun l => if l.isOf d.token then l.receive d else l := by
  have hcount : ((linesOf t).filter (Line.isOf d.token)).length
      = (t.rows.filter (t.meets [(tokenColumn, .text d.token)])).length := by
    rw [linesOf, List.filter_map, List.length_map]
    congr 2
    funext r
    exact (h.meets_token d.token r).symm
  have hchange := change_eq_ok.mpr ⟨h.checkColumns_written d, checkCells_written d hd,
    List.all_eq_true.mpr (h.keepsColumns_changed d), (allDistinct_iff t _).mpr (h.distinct_changed d),
    ⟨_, renumber_of_not_given (fun c hc hn => by rw [h.not_isRowNumber c hc] at hn; cases hn) _, rfl⟩,
    hcount⟩
  exact ⟨_, hchange, ⟨h.columns, h.sound.change hchange⟩, rfl, h.linesOf_changed d⟩

/-! ### Lookups -/

/-- The first line of the token that waits, by the cell of a column. -/
theorem first?_unseen (h : IsPings t) (token : String) {field : String} {i : Nat}
    (hi : t.column? field = some i) :
    t.first? field (PingTable.unseen token)
      = .ok ((t.rows.find? fun r => (Line.ofRow r).isWaiting token).map fun r => cell r i) := by
  refine first?_eq_ok.mpr ⟨_, reader_of_column? hi, ?_, rfl, ?_⟩
  · refine checkColumns_eq_ok.mpr ?_
    simp [PingTable.unseen, h.column?_token, h.column?_seen]
  · congr 2
    funext r
    exact (h.meets_unseen token r).symm

/-- The lines of a token that waits are all the lines of the token: it has only one. -/
theorem isOf_eq_isWaiting (h : IsPings t) {token : String}
    (hw : (linesOf t).any (Line.isWaiting token) = true) {l : Line} (hl : l ∈ linesOf t) :
    l.isOf token = l.isWaiting token := by
  obtain ⟨w, hwmem, hwait⟩ := List.any_eq_true.mp hw
  obtain ⟨r, hr, rfl⟩ := List.mem_map.mp hl
  obtain ⟨s, hs, rfl⟩ := List.mem_map.mp hwmem
  have hs0 : (Line.ofRow s).isOf token = true := by
    rw [Line.isWaiting] at hwait
    exact (Bool.and_eq_true_iff.mp hwait).1
  by_cases hr0 : (Line.ofRow r).isOf token = true
  · have h1 : cell r 0 = .text token := eq_of_beq hr0
    have h2 : cell s 0 = .text token := eq_of_beq hs0
    -- no two rows have the same token, so this is the row that waits
    have hrs : r = s := by
      refine h.token_unique hr hs ?_ (h1.trans h2.symm)
      rw [h1]
      exact Value.noConfusion
    rw [hrs, hs0, hwait]
  · rw [Bool.not_eq_true] at hr0
    rw [Line.isWaiting]
    rw [hr0, Bool.false_and]

/-! ### New pings -/

/-- A ping that was just added waits, and the table is one of pings still. -/
theorem insert_ping (h : IsPings t) {t' : Table} {token : String}
    (hadd : t.insert [(tokenColumn, .text token), (seenColumn, .int 0)] = .ok t') :
    IsPings t' ∧ (linesOf t').any (Line.isWaiting token) = true := by
  have hsound := h.sound.insert hadd
  obtain ⟨-, -, -, n, -, -, -, rfl⟩ := insert_eq_ok.mp hadd
  refine ⟨⟨h.columns, hsound⟩, ?_⟩
  refine List.any_eq_true.mpr
    ⟨_, List.mem_map_of_mem (mem_place.mpr (.inl rfl)), ?_⟩
  obtain ⟨extra, he, -⟩ := h.columns
  rw [Line.isWaiting, Line.isOf, Line.ofRow, cell, newRow, withNumber, newValues]
  rw [he]
  rw [Bool.and_eq_true]
  exact ⟨beq_self_eq_true _, beq_self_eq_true _⟩

theorem receivedTime_newRow (h : IsPings t) (token : String) (n : Int) :
    (Line.ofRow (t.newRow [(tokenColumn, .text token), (seenColumn, .int 0)] n)).receivedTime
      = .null := by
  obtain ⟨extra, he, -⟩ := h.columns
  rw [Line.ofRow, cell, newRow, withNumber, newValues]
  rw [he]
  rfl

end IsPings

/-- A ping that is added is a new row of the table, which takes the place of the old one. -/
theorem PingTable.insert_of_add {p : PingTable} {n token : String} {db db' : Database}
    (hn : statementName p.name = .ok n) (h : p.add token db = .ok db') :
    ∃ t t', db.table? n = some t ∧
      t.insert [(tokenColumn, .text token), (seenColumn, .int 0)] = .ok t' ∧
      db'.table? n = some t' := by
  rw [PingTable.add] at h
  obtain ⟨_, hname, hinsert⟩ := Outcome.bind_eq_ok.mp h
  cases hn.symm.trans hname
  obtain ⟨t, t', ht, ht', rfl⟩ := Database.insert_eq_ok.mp hinsert
  refine ⟨t, t', ht, ht', table?_put ht ?_⟩
  obtain ⟨-, -, -, k, -, -, -, rfl⟩ := Table.insert_eq_ok.mp ht'
  show sameName t.name n = true
  exact sameName_of_table? ht

end DeliveryWatch.Ledger
