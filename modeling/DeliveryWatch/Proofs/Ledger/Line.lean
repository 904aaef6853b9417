/-
Tables of pings, and their rows as lines of a ledger.

* `IsPings` — a table with the columns of pings, perhaps some more, whose rows keep the rules;
* `Line` — a row by the meaning of its cells; `Line.ofRow` reads it, `Line.receive` writes a delivery;
* `meets_unseen`, `meets_token` — the conditions of the statements, as facts on lines;
* `token_unique` — no two rows have the same token.
-/
import DeliveryWatch.Ledger.Table
import DeliveryWatch.Proofs.Database.Sound
import Mathlib.Data.List.Pairwise

namespace DeliveryWatch.Ledger

open Database Table

/-! ### Tables of pings -/

/-- A column that may stand beside those of the pings: no rule asks anything of it. -/
def isExtra (c : Column) : Bool :=
  c.nullable && !c.isKey && !c.isUnique && pingColumns.all fun d => !sameName c.name d.name

/-- A table of pings: the columns of pings, then others that no rule asks anything of. -/
structure IsPings (t : Table) : Prop where
  columns : ∃ extra : List Column, t.columns = pingColumns ++ extra ∧ extra.all isExtra = true
  sound : t.Sound

namespace IsPings

variable {t : Table}

theorem getElem?_columns (h : IsPings t) {i : Nat} (hi : i < 6) :
    t.columns[i]? = pingColumns[i]? := by
  obtain ⟨extra, he, -⟩ := h.columns
  rw [he]
  exact List.getElem?_append_left hi

theorem column?_eq (h : IsPings t) {name : String} {i : Nat}
    (hi : pingColumns.findIdx? (fun c => sameName c.name name) = some i) :
    t.column? name = some i := by
  obtain ⟨extra, he, -⟩ := h.columns
  rw [column?]
  rw [he, List.findIdx?_append, hi]
  rfl

theorem column?_token (h : IsPings t) : t.column? tokenColumn = some 0 :=
  h.column?_eq (by decide)

theorem column?_seen (h : IsPings t) : t.column? seenColumn = some 1 :=
  h.column?_eq (by decide)

/-- No column holds the numbers of the rows. -/
theorem not_isRowNumber (h : IsPings t) : ∀ c ∈ t.columns, c.isRowNumber = false := by
  obtain ⟨extra, he, hx⟩ := h.columns
  intro c hc
  rw [he] at hc
  rcases List.mem_append.mp hc with hc | hc
  · have hall : pingColumns.all (fun c => !c.isRowNumber) = true := by decide
    simpa using List.all_eq_true.mp hall c hc
  · have hcx : isExtra c = true := List.all_eq_true.mp hx c hc
    simp only [isExtra, Bool.and_eq_true, Bool.not_eq_true'] at hcx
    rw [Column.isRowNumber, hcx.1.1.2, Bool.false_and]

theorem uniqueColumns_eq (h : IsPings t) :
    ∃ c, t.uniqueColumns = [(0, c)] := by
  obtain ⟨extra, he, hx⟩ := h.columns
  refine ⟨{ name := tokenColumn, type := "VARCHAR(255)", nullable := false, isKey := true }, ?_⟩
  -- the rules ask nothing of the other columns
  have hextra : ((extra.zipIdx 6).map fun x => (x.2, x.1)).filter
      (fun x => x.2.isKey || x.2.isUnique) = [] := by
    rw [List.filter_eq_nil_iff]
    intro x hx'
    obtain ⟨⟨c, j⟩, hmem, rfl⟩ := List.mem_map.mp hx'
    have hcx : isExtra c = true := List.all_eq_true.mp hx c (List.fst_mem_of_mem_zipIdx hmem)
    rw [isExtra] at hcx
    simp only [Bool.and_eq_true, Bool.not_eq_true'] at hcx
    obtain ⟨⟨⟨-, hk⟩, hu⟩, -⟩ := hcx
    show ¬ (c.isKey || c.isUnique) = true
    rw [hk, hu]
    exact Bool.false_ne_true
  rw [uniqueColumns]
  rw [he, List.zipIdx_append, List.map_append, List.filter_append]
  show _ ++ ((extra.zipIdx 6).map fun x => (x.2, x.1)).filter
      (fun x => x.2.isKey || x.2.isUnique) = _
  rw [hextra]
  rfl

theorem clash_eq (h : IsPings t) (r s : Row) :
    t.clash r s = (cell r 0 != .null && cell r 0 == cell s 0) := by
  obtain ⟨c, hc⟩ := h.uniqueColumns_eq
  rw [clash]
  rw [hc]
  simp

/-- A row has a cell for each column of pings, and cells for the other columns. -/
theorem exists_cells {extra : List Column} (he : t.columns = pingColumns ++ extra) {r : Row}
    (hw : r.values.length = t.columns.length) :
    ∃ v0 v1 v2 v3 v4 v5 rest, r.values = [v0, v1, v2, v3, v4, v5] ++ rest ∧
      rest.length = extra.length := by
  obtain ⟨n, vs⟩ := r
  rw [he] at hw
  match vs, hw with
  | v0 :: v1 :: v2 :: v3 :: v4 :: v5 :: rest, hw =>
    refine ⟨v0, v1, v2, v3, v4, v5, rest, rfl, ?_⟩
    have : rest.length + 6 = extra.length + 6 := hw
    omega

/-- What no rule asks anything of does not matter for the rules. -/
theorem keepsColumns_eq (h : IsPings t) (r : Row) (hw : r.values.length = t.columns.length) :
    t.keepsColumns r = (cell r 0 != .null && cell r 1 != .null) := by
  obtain ⟨extra, he, hx⟩ := h.columns
  obtain ⟨v0, v1, v2, v3, v4, v5, rest, hv, -⟩ := exists_cells he hw
  -- the other columns may be empty
  have hrest : (List.zip extra rest).all
      (fun x => x.1.nullable || x.1.isRowNumber || x.2 != .null) = true := by
    rw [List.all_eq_true]
    rintro ⟨c, v⟩ hc
    have hcx : isExtra c = true := List.all_eq_true.mp hx c (List.of_mem_zip hc).1
    rw [isExtra] at hcx
    simp only [Bool.and_eq_true] at hcx
    obtain ⟨⟨⟨hn, -⟩, -⟩, -⟩ := hcx
    show (c.nullable || c.isRowNumber || v != .null) = true
    rw [hn, Bool.true_or, Bool.true_or]
  simp only [keepsColumns, cell]
  rw [he, hv, List.zip_append (by rfl), List.all_append]
  show (_ && (List.zip extra rest).all
      (fun x => x.1.nullable || x.1.isRowNumber || x.2 != .null)) = _
  rw [hrest]
  have htoken : (Column.mk tokenColumn "VARCHAR(255)" false true false .null).isRowNumber
      = false := by decide
  have hseen : (Column.mk seenColumn "SMALLINT" false false false (.int 0)).isRowNumber
      = false := by decide
  simp only [pingColumns, List.zip_cons_cons, List.zip_nil_left, List.all_cons, List.all_nil,
    htoken, hseen, Bool.false_or, Bool.true_or, Bool.and_true]
  rfl

theorem token_unique (h : IsPings t) {r s : Row} (hr : r ∈ t.rows) (hs : s ∈ t.rows)
    (hnull : cell r 0 ≠ .null) (heq : cell r 0 = cell s 0) : r = s := by
  by_contra hne
  have hsymm : Std.Symm fun r s => t.clash r s = false :=
    ⟨fun a b hab => by rw [clash_comm]; exact hab⟩
  -- otherwise the two rows would clash
  have hclash : t.clash r s = false := h.sound.distinct.forall hr hs hne
  rw [h.clash_eq, heq, beq_self_eq_true, Bool.and_true, bne_eq_false_iff_eq] at hclash
  exact hnull (heq.trans hclash)

end IsPings

/-! ### Lines -/

/-- A row of the table of pings by the meaning of its cells. -/
structure Line where
  number : Int
  token : Value
  seen : Value
  delay : Value
  header : Value
  body : Value
  receivedTime : Value
  /-- The cells of all other columns. -/
  others : List Value
  deriving Repr, DecidableEq

namespace Line

/-- The line of a row. -/
def ofRow (r : Row) : Line where
  number := r.number
  token := cell r 0
  seen := cell r 1
  delay := cell r 2
  header := cell r 3
  body := cell r 4
  receivedTime := cell r 5
  others := r.values.drop 6

/-- Whether the line is that of a token. -/
def isOf (token : String) (l : Line) : Bool := l.token == .text token

/-- Whether the line is that of a token whose mail was not seen yet. -/
def isWaiting (token : String) (l : Line) : Bool := l.isOf token && l.seen == .int 0

/-- Write a delivery to a line, and mark it seen. -/
def receive (d : Delivery) (l : Line) : Line :=
  { l with seen := .int 1, delay := .int d.delay, header := .text d.header, body := .text d.body,
           receivedTime := .text d.receivedTime.ledgerText }

end Line

/-- The lines of a table of pings. -/
def linesOf (t : Table) : List Line := t.rows.map Line.ofRow

namespace IsPings

variable {t : Table}

theorem meets_token (h : IsPings t) (token : String) (r : Row) :
    t.meets [(tokenColumn, .text token)] r = (Line.ofRow r).isOf token := by
  simp only [meets, List.all_cons, List.all_nil, Bool.and_true, h.column?_token,
    h.getElem?_columns (i := 0) (by decide)]
  show Affinity.agrees .text (cell r 0) (.text token) = (cell r 0 == .text token)
  cases cell r 0 with
  | null => rfl
  | int n => rfl
  | real x => rfl
  | text s => rfl
  | blob bytes => rfl

theorem meets_unseen (h : IsPings t) (token : String) (r : Row) :
    t.meets (PingTable.unseen token) r = (Line.ofRow r).isWaiting token := by
  have htoken := h.meets_token token r
  simp only [PingTable.unseen, meets, List.all_cons, List.all_nil, Bool.and_true] at htoken ⊢
  rw [htoken, h.column?_seen]
  simp only [h.getElem?_columns (i := 1) (by decide)]
  show (_ && Affinity.agrees .integer (cell r 1) (.int 0)) = (_ && cell r 1 == .int 0)
  congr 1
  cases cell r 1 with
  | null => rfl
  | int n => rfl
  | real x => rfl
  | text s => rfl
  | blob bytes => rfl

end IsPings

end DeliveryWatch.Ledger
