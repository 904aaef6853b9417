/-
A table of pings as a map from tokens to records that are used once.

* `Call.answer`, `Call.effect` — what the records answer to a call, and what becomes of them;
* `answersTo_find_after_record` — a token that was delivered to is found no more;
* `call_of_made` — a call of the store does this, on a table that was made for configured names;
* `one_shot_records` — so does any sequence of calls, whatever the table held at first.
-/
import DeliveryWatch.Proofs.Ledger.Calls
import DeliveryWatch.Proofs.Ledger.Contract
import DeliveryWatch.Proofs.Ledger.Made

namespace DeliveryWatch.Ledger

open Database Table

/-! ### Records -/

namespace Line

/-- The cells of the line, in the order of the columns. -/
def cells (l : Line) : List Value :=
  [l.token, l.seen, l.delay, l.header, l.body, l.receivedTime] ++ l.others

/-- The cell of a column. -/
def value (l : Line) (i : Nat) : Value := (l.cells[i]?).getD .null

/-- Write a delivery to the lines of its token. -/
def update (d : Delivery) (lines : List Line) : List Line :=
  lines.map fun l => if l.isOf d.token then l.receive d else l

/-- No two lines are of the same token. -/
def Apart (lines : List Line) : Prop :=
  lines.Pairwise fun l m => ∀ token, l.isOf token = true → m.isOf token = false

/-- The line of a token that waits is the line of the token, if it waits. -/
theorem Apart.find?_isWaiting {lines : List Line} (h : Apart lines) (token : String) :
    lines.find? (isWaiting token) = (lines.find? (isOf token)).filter (·.seen == .int 0) := by
  induction lines with
  | nil => rfl
  | cons l lines ih =>
    obtain ⟨hl, hlines⟩ := List.pairwise_cons.mp h
    by_cases hof : l.isOf token = true
    · rw [List.find?_cons_of_pos hof]
      by_cases hseen : (l.seen == .int 0) = true
      · rw [List.find?_cons_of_pos (by rw [isWaiting, hof, hseen]; rfl), Option.filter_some, if_pos hseen]
      · -- the others are of other tokens
        have hnone : lines.find? (isWaiting token) = none := by
          refine List.find?_eq_none.mpr ?_
          intro m hm
          rw [isWaiting, hl m hm token hof, Bool.false_and]
          exact Bool.false_ne_true
        rw [List.find?_cons_of_neg (by rw [isWaiting, hof]; exact hseen), hnone, Option.filter_some,
          if_neg hseen]
    · rw [List.find?_cons_of_neg hof, List.find?_cons_of_neg ?_]
      · exact ih hlines
      · rw [isWaiting, Bool.and_eq_true]
        exact fun hw => hof hw.1

/-- A token has one line or none. -/
theorem Apart.length_filter {lines : List Line} (h : Apart lines) (token : String) :
    (lines.filter (isOf token)).length = if lines.any (isOf token) then 1 else 0 := by
  induction lines with
  | nil => rfl
  | cons l lines ih =>
    obtain ⟨hl, hlines⟩ := List.pairwise_cons.mp h
    by_cases hof : l.isOf token = true
    -- no later line has the token of this one
    · have hnone : lines.filter (isOf token) = [] := by
        refine List.filter_eq_nil_iff.mpr ?_
        intro m hm
        rw [hl m hm token hof]
        exact Bool.false_ne_true
      rw [List.filter_cons_of_pos hof, hnone, List.any_cons, hof]
      rfl
    · rw [List.filter_cons_of_neg hof, ih hlines, List.any_cons, Bool.eq_false_iff.mpr hof,
        Bool.false_or]

theorem cells_ofRow {r : Row} (h : 6 ≤ r.values.length) : (ofRow r).cells = r.values := by
  obtain ⟨n, vs⟩ := r
  -- the first six cells have names of their own
  match vs, h with
  | v0 :: v1 :: v2 :: v3 :: v4 :: v5 :: rest, _ => rfl

end Line

theorem IsPings.cell_eq_value {t : Table} (h : IsPings t) {r : Row} (hr : r ∈ t.rows) (i : Nat) :
    cell r i = (Line.ofRow r).value i := by
  obtain ⟨extra, he, -⟩ := h.columns
  have hwidth : 6 ≤ r.values.length := by
    rw [h.sound.width r hr, he, List.length_append]
    exact Nat.le_add_right 6 _
  rw [Line.value, Line.cells_ofRow hwidth]
  rfl

theorem IsPings.apart {t : Table} (h : IsPings t) : Line.Apart (linesOf t) := by
  rw [Line.Apart, linesOf, List.pairwise_map]
  refine h.sound.distinct.imp ?_
  intro r s hclash token hr
  have hr0 : cell r 0 = .text token := eq_of_beq hr
  rw [h.clash_eq, hr0] at hclash
  show (cell s 0 == .text token) = false
  rw [BEq.comm]
  simpa using hclash

/-! ### Calls on records -/

namespace Call

/-- What records answer to a call: a lookup shows one cell of the line of the token, while it was not
seen; a delivery tells whether there is a line. -/
def answer (place : Nat) (lines : List Line) : Call → Answer
  | validate => .readable
  | find token => .found (((lines.find? (Line.isOf token)).filter (·.seen == .int 0)).map fun l =>
      ⟨token, .value (l.value place)⟩)
  | record d => .changed (if lines.any (Line.isOf d.token) then 1 else 0)

/-- What a call makes of records: a delivery is written to the line of its token. -/
def effect (lines : List Line) : Call → List Line
  | record d => Line.update d lines
  | _ => lines

/-- The number in a call has a place in a cell. -/
def Fits : Call → Prop
  | record d => fitsCell d.delay = true
  | _ => True

end Call

/-- What records answer to calls one after another. -/
def answersTo (place : Nat) : List Line → List Call → List Answer
  | _, [] => []
  | lines, c :: rest => c.answer place lines :: answersTo place (c.effect lines) rest

/-- A token none of whose lines waits. -/
def Spent (token : String) (lines : List Line) : Prop :=
  ∀ l ∈ lines, l.isOf token = true → l.seen ≠ .int 0

variable {lines : List Line} {calls : List Call} {token : String} {place : Nat}

/-- A delivery spends its token. -/
theorem spent_update (d : Delivery) (lines : List Line) : Spent d.token (Line.update d lines) := by
  intro l' hl' hof
  obtain ⟨l, -, rfl⟩ := List.mem_map.mp hl'
  by_cases hd : l.isOf d.token = true
  · rw [if_pos hd]
    exact fun h => by cases h
  · rw [if_neg hd] at hof
    exact absurd hof hd

theorem Spent.effect (h : Spent token lines) (c : Call) : Spent token (c.effect lines) := by
  cases c with
  | validate => exact h
  | find other => exact h
  | record d =>
    intro l' hl' hof
    obtain ⟨l, hl, rfl⟩ := List.mem_map.mp hl'
    by_cases hd : l.isOf d.token = true
    · rw [if_pos hd]
      exact fun h => by cases h
    · rw [if_neg hd] at hof ⊢
      exact h l hl hof

theorem Spent.answer (h : Spent token lines) :
    (Call.find token).answer place lines = .found none := by
  have hnone : (lines.find? (Line.isOf token)).filter (·.seen == .int 0) = none := by
    rw [Option.filter_eq_none_iff]
    intro l hl hseen
    exact h l (List.mem_of_find?_eq_some hl) (List.find?_some hl) (eq_of_beq hseen)
  rw [Call.answer, hnone]
  rfl

theorem answersTo_find_of_spent (h : Spent token lines) {j : Nat}
    (hj : calls[j]? = some (.find token)) : (answersTo place lines calls)[j]? = some (.found none) := by
  induction calls generalizing lines j with
  | nil => cases hj
  | cons c rest ih =>
    cases j with
    | zero =>
      cases hj
      rw [answersTo, List.getElem?_cons_zero, h.answer]
    | succ j =>
      rw [List.getElem?_cons_succ] at hj
      rw [answersTo, List.getElem?_cons_succ]
      exact ih (h.effect c) hj

/-- **A token that was delivered to is found no more.** -/
theorem answersTo_find_after_record {d : Delivery} {i j : Nat} (hij : i < j)
    (hi : calls[i]? = some (.record d)) (hj : calls[j]? = some (.find d.token)) :
    (answersTo place lines calls)[j]? = some (.found none) := by
  induction calls generalizing lines i j with
  | nil => cases hi
  | cons c rest ih =>
    obtain ⟨j, rfl⟩ : ∃ k, j = k + 1 := ⟨j - 1, by omega⟩
    rw [List.getElem?_cons_succ] at hj
    rw [answersTo, List.getElem?_cons_succ]
    cases i with
    | zero =>
      cases hi
      exact answersTo_find_of_spent (spent_update d lines) hj
    | succ i => exact ih (Nat.lt_of_succ_lt_succ hij) hi hj

/-! ### Calls of the store -/

/-- What no call changes: the time, the tables of other names, and all of the table but its rows. -/
structure RowsOnly (n : String) (r r' : Premises) : Prop where
  now : r'.now = r.now
  others : ∀ name, sameName n name = false → r'.database.table? name = r.database.table? name
  table : ∀ t, r.database.table? n = some t → ∃ rows, r'.database.table? n = some { t with rows := rows }

namespace RowsOnly

variable {n : String} {r r' r'' : Premises}

theorem refl (n : String) (r : Premises) : RowsOnly n r r :=
  ⟨rfl, fun _ _ => rfl, fun t ht => ⟨t.rows, ht⟩⟩

theorem trans (h : RowsOnly n r r') (h' : RowsOnly n r' r'') : RowsOnly n r r'' := by
  refine ⟨h'.now.trans h.now, ?_, ?_⟩
  · intro name hn
    rw [h'.others name hn, h.others name hn]
  · intro t ht
    obtain ⟨rows, hrows⟩ := h.table t ht
    obtain ⟨rows', hrows'⟩ := h'.table _ hrows
    exact ⟨rows', hrows'⟩

/-- Nothing else changes when the table is put back with other rows. -/
theorem put {t t' : Table} (ht : r.database.table? n = some t) (hrows : t' = { t with rows := t'.rows }) :
    RowsOnly n r { r with database := r.database.put t' } := by
  have hname : t'.name = t.name := by rw [hrows]
  have hsame : sameName t'.name n = true := by
    rw [hname]
    exact sameName_of_table? ht
  refine ⟨rfl, ?_, ?_⟩
  · intro name hother
    refine table?_put_other _ ?_
    rw [sameName_congr hsame]
    exact hother
  · intro u hu
    cases ht.symm.trans hu
    exact ⟨t'.rows, (table?_put ht hsame).trans (congrArg some hrows)⟩

end RowsOnly

namespace PingTable

variable {table field n : String} {p : PingTable} {t : Table} {r : Premises}

/-- **A call of the store does to the lines of the table what it does to records.** -/
theorem call_of_made (hp : describe? (some table) (some field) = .ok p) (hne : field ≠ receivedColumn)
    (hm : p.IsMade n t) (ht : r.database.table? n = some t) {c : Call} (hc : c.Fits) :
    ∃ r' t', (p.store Premises.access).call c r = (.ok (c.answer p.place (linesOf t)), r') ∧
      RowsOnly n r r' ∧ r'.database.table? n = some t' ∧ p.IsMade n t' ∧
      linesOf t' = c.effect (linesOf t) := by
  have hpings := hm.isPings hp
  obtain ⟨f, hf, hplace⟩ := hm.column?_field hp
  have hfield : p.field ≠ receivedColumn := by
    rw [(names_of_describe? hp).2]
    exact hne
  -- a check and a lookup leave everything as it is; a delivery changes rows only
  cases c with
  | validate =>
    have hvalidate : p.validate r.database = .ok () :=
      validate_eq_ok.mpr ⟨n, hm.name, by rw [isReadable, ht]; rfl⟩
    refine ⟨r, t, ?_, RowsOnly.refl n r, ht, hm, rfl⟩
    have hget : Premises.access.get r = r.database := rfl
    simp only [Store.call, store, hget, hvalidate]
    rfl
  | find token =>
    refine ⟨r, t, ?_, RowsOnly.refl n r, ht, hm, rfl⟩
    have hfind : p.find token r.database
        = .ok (((linesOf t).find? (Line.isWaiting token)).map fun l =>
            ⟨token, .value (l.value p.place)⟩) := by
      rw [hpings.find_of_column ht hm.name hf hplace hfield, linesOf, List.find?_map, Option.map_map]
      congr 1
      refine Option.map_congr ?_
      intro s hs
      rw [hpings.cell_eq_value (List.mem_of_find?_eq_some hs), Function.comp_apply]
    rw [hpings.apart.find?_isWaiting] at hfind
    show (((p.find token r.database).map Answer.found, r) : Except Fault Answer × Premises) = _
    rw [hfind]
    rfl
  | record d =>
    obtain ⟨t', hrecord, hpings', hsame, hrows, hlines⟩ := hpings.exists_record ht hm.name d hc
    have hresult : ((p.store Premises.access).record d r).result
        = .ok (if (linesOf t).any (Line.isOf d.token) then 1 else 0) := by
      have hget : Premises.access.get r = r.database := rfl
      rw [result_record, hget, hrecord, ← hpings.apart.length_filter]
      rfl
    have hresources : ((p.store Premises.access).record d r).resources
        = { r with database := r.database.put t' } := by
      rw [resources_record, hrecord]
    have hcolumns : t'.columns = t.columns := by rw [hrows]
    refine ⟨{ r with database := r.database.put t' }, t', ?_, RowsOnly.put ht hrows, table?_put ht hsame,
      hm.congr hcolumns hpings'.sound, hlines⟩
    rw [Store.call, hresult, hresources]
    rfl

theorem callAll_of_made (hp : describe? (some table) (some field) = .ok p)
    (hne : field ≠ receivedColumn) {calls : List Call} (hm : p.IsMade n t)
    (ht : r.database.table? n = some t) (hcalls : ∀ c ∈ calls, c.Fits) :
    ∃ r' t', (p.store Premises.access).callAll calls r
        = ((answersTo p.place (linesOf t) calls).map .ok, r') ∧
      RowsOnly n r r' ∧ r'.database.table? n = some t' ∧
      linesOf t' = calls.foldl Call.effect (linesOf t) := by
  -- the table is another one after each call, but it was made for the same names
  induction calls generalizing r t with
  | nil => exact ⟨r, t, rfl, RowsOnly.refl n r, ht, rfl⟩
  | cons c rest ih =>
    obtain ⟨r1, t1, hcall, hrows, ht1, hm1, hlines⟩ := call_of_made hp hne hm ht
      (hcalls c List.mem_cons_self)
    obtain ⟨r2, t2, hrest, hrows', ht2, hlines'⟩ := ih hm1 ht1
      fun c hc => hcalls c (List.mem_cons_of_mem _ hc)
    refine ⟨r2, t2, ?_, hrows.trans hrows', ht2, ?_⟩
    · rw [Store.callAll, hcall]
      simp only
      rw [hrest, hlines]
      rfl
    · rw [List.foldl_cons, ← hlines]
      exact hlines'

theorem resources_callAll {calls : List Call} (h : ∀ d, Call.record d ∉ calls) :
    ((p.store Premises.access).callAll calls r).2 = r := by
  induction calls with
  | nil => rfl
  | cons c rest ih =>
    have hstay : ((p.store Premises.access).call c r).2 = r := by
      cases c with
      | validate => exact resources_validate Premises.access r
      | find token => rfl
      | record d => exact absurd List.mem_cons_self (h d)
    rw [Store.callAll]
    simp only
    rw [hstay]
    exact ih fun d hd => h d (List.mem_cons_of_mem _ hd)

/-- **A table of pings is a map from tokens to records that are used once.** Take a table that was made for
configured names, with any rows that keep its rules, and a lookup field that is not the received time.
Then calls of the store, one after another, answer and do what they answer and do on records: no two lines
are of the same token, a lookup shows the cell of the lookup field while the line was not seen, and a
delivery is written to the line of its token and to nothing else. After it the token is found no more. -/
theorem one_shot_records (hp : describe? (some table) (some field) = .ok p)
    (hne : field ≠ receivedColumn) (hm : p.IsMade n t) (ht : r.database.table? n = some t)
    {calls : List Call} (hcalls : ∀ c ∈ calls, c.Fits) :
    ∃ answers r', (p.store Premises.access).callAll calls r = (answers.map .ok, r') ∧
      answers = answersTo p.place (pingsOf n r.database) calls ∧
      pingsOf n r'.database = calls.foldl Call.effect (pingsOf n r.database) ∧
      Line.Apart (pingsOf n r.database) ∧ RowsOnly n r r' ∧
      ((∀ d, Call.record d ∉ calls) → r' = r) ∧
      ∀ (i j : Nat) (d : Delivery), i < j → calls[i]? = some (.record d) → calls[j]? = some (.find d.token) →
        answers[j]? = some (.found none) := by
  obtain ⟨r', t', hcall, hrows, ht', hlines⟩ := callAll_of_made hp hne hm ht hcalls
  rw [pingsOf_of_table? ht]
  refine ⟨_, r', hcall, rfl, ?_, (hm.isPings hp).apart, hrows, ?_, ?_⟩
  · rw [pingsOf_of_table? ht']
    exact hlines
  · intro hnone
    have hstay := resources_callAll (p := p) (r := r) hnone
    rw [hcall] at hstay
    exact hstay
  · intro i j d hij hi hj
    exact answersTo_find_after_record hij hi hj

namespace Sample

/-- A table whose lookups show a mailbox. -/
def boxed : PingTable := ⟨"pings", "mailbox", pingColumns ++ [{ name := "mailbox", type := "TEXT" }]⟩

/-- Two pings whose tokens differ by case only. -/
def boxes : Table where
  name := "pings"
  columns := boxed.columns
  rows :=
    [⟨1, [.text "x", .int 0, .null, .null, .null, .null, .text "inbox-7"]⟩,
      ⟨2, [.text "X", .int 0, .null, .null, .null, .null, .text "inbox-8"]⟩]

/-- Premises with these pings. -/
def lobby : Premises := { database := { tables := [boxes] }, now := Ledger.Sample.noon }

/-- A delivery to the first ping. -/
def parcel : Delivery := Stage.delivery "x" "Subject: guid: x\n\nhello" Ledger.Sample.noon

theorem isMade_boxes : boxed.IsMade "pings" boxes := by
  refine ⟨by decide, ?_, ⟨by decide, by decide +kernel, by decide +kernel⟩⟩
  exact ⟨{}, { tables := [{ boxes with rows := [] }] }, { boxes with rows := [] }, rfl,
    by decide +kernel, rfl, rfl⟩

end Sample

/-- The first ping is found, delivered to, and found no more; the other one waits as before. -/
theorem one_shot_records_mailbox :
    ∃ r', (Sample.boxed.store Premises.access).callAll
        [.find "x", .record Sample.parcel, .find "x", .find "X", .record { Sample.parcel with token := "y" }]
        Sample.lobby
        = ([.found (some ⟨"x", .value (.text "inbox-7")⟩), .changed 1, .found none,
            .found (some ⟨"X", .value (.text "inbox-8")⟩), .changed 0].map .ok, r') ∧
      (pingsOf "pings" r'.database).map Line.seen = [.int 1, .int 0] := by
  have hp : describe? (some "pings") (some "mailbox") = .ok Sample.boxed := by decide +kernel
  have ht : Sample.lobby.database.table? "pings" = some Sample.boxes := rfl
  have hfits : ∀ c ∈ [Call.find "x", .record Sample.parcel, .find "x", .find "X",
      .record { Sample.parcel with token := "y" }], c.Fits := by
    intro c hc
    simp only [List.mem_cons, List.not_mem_nil, or_false] at hc
    rcases hc with rfl | rfl | rfl | rfl | rfl
    · trivial
    · exact Trace.fitsCell_recordedDelay _
    · trivial
    · trivial
    · exact Trace.fitsCell_recordedDelay _
  obtain ⟨answers, r', hcall, hanswers, hpings, -⟩ :=
    one_shot_records hp (by decide) Sample.isMade_boxes ht hfits
  refine ⟨r', ?_, ?_⟩
  · rw [hcall, hanswers]
    congr 1
  · rw [hpings]
    decide +kernel

end PingTable

end DeliveryWatch.Ledger
