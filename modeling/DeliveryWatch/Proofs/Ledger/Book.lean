/-
The ledger that a database stands for.

* `Book` — the lines of the pings, and the letters that were kept; `Book.ofDatabase` reads it;
* `IsPings.select_of_column`, `IsPings.find_of_column`, `IsPings.exists_record` — what the statements of
  the filter do on a table of pings;
* `Ready` — a database with a table of pings and the table of mail, which no statement of the default
  pipeline can fail on;
* `find_of_ready`, `record_of_ready`, `insert_of_ready` — what the three statements do to the ledger;
* `Book.post` — what a whole message does to it.
-/
import DeliveryWatch.Proofs.Ledger.Pings
import DeliveryWatch.Proofs.Pipeline.Passage
import DeliveryWatch.Proofs.Stage.MailBox
import DeliveryWatch.Proofs.Trace.Delay

namespace DeliveryWatch.Ledger

open Database Table MailTable

/-- A ledger: the pings that were sent, and the letters that were kept. -/
structure Book where
  pings : List Line
  mail : List Letter
  deriving Repr, DecidableEq

/-- The lines of a table of a database; a missing table has none. -/
def pingsOf (n : String) (db : Database) : List Line := ((db.table? n).map linesOf).getD []

theorem pingsOf_of_table? {n : String} {db : Database} {t : Table} (h : db.table? n = some t) :
    pingsOf n db = linesOf t := by
  rw [pingsOf, h]
  rfl

/-- The letters in a database. -/
def mailOf (db : Database) : List Letter := ((db.table? MailTable.name).map lettersOf).getD []

namespace Book

/-- The ledger in a database whose table of pings has the name `n`. -/
def ofDatabase (n : String) (db : Database) : Book := ⟨pingsOf n db, mailOf db⟩

/-- Whether a ping of a token waits for its mail. -/
def waits (b : Book) (token : String) : Bool := b.pings.any (Line.isWaiting token)

/-- Write a delivery to all lines of its token. -/
def write (b : Book) (d : Delivery) : Book :=
  { b with pings := b.pings.map fun l => if l.isOf d.token then l.receive d else l }

/-- Keep the letter of a message. -/
def keep (b : Book) (e : Envelope) : Book := { b with mail := b.mail ++ [Letter.ofEnvelope e] }

/-- Whether a message is accepted: a ping of its token waits. -/
def accepts (b : Book) (e : Envelope) : Bool :=
  match e.token? with
  | some token => b.waits token
  | none => false

/-- What a message does to the ledger that arrives at the time `now`: an accepted one is written to
the line that waits for it, and kept; any other does nothing. -/
def post (b : Book) (now : Time) (e : Envelope) : Book :=
  match e.token? with
  | some token =>
    if b.waits token then
      { pings := b.pings.map fun l =>
          if l.isWaiting token then l.receive (Stage.delivery token e.data now) else l,
        mail := b.mail ++ [Letter.ofEnvelope e] }
    else b
  | none => b

variable {b : Book} {now : Time} {e : Envelope} {token : String}

theorem accepts_of_none (h : e.token? = none) : b.accepts e = false := by
  rw [accepts]
  rw [h]

theorem accepts_of_some (h : e.token? = some token) : b.accepts e = b.waits token := by
  rw [accepts]
  rw [h]

theorem post_of_none (h : e.token? = none) : b.post now e = b := by
  rw [post]
  rw [h]

theorem post_of_waits (h : e.token? = some token) (hw : b.waits token = true) :
    b.post now e = { pings := b.pings.map fun l =>
                       if l.isWaiting token then l.receive (Stage.delivery token e.data now) else l,
                     mail := b.mail ++ [Letter.ofEnvelope e] } := by
  rw [post]
  rw [h]
  simp only
  rw [if_pos hw]

theorem post_of_not_waits (h : e.token? = some token) (hw : ¬ b.waits token = true) :
    b.post now e = b := by
  rw [post]
  rw [h]
  simp only
  rw [if_neg hw]

end Book

/-! ### Statements on a table of pings -/

namespace IsPings

variable {t : Table} {n : String} {db : Database} {p : PingTable}

/-- A lookup reads the cell of its field in the first line of the token that waits. -/
theorem select_of_column (h : IsPings t) (ht : db.table? n = some t)
    (hn : statementName p.name = .ok n) {field : String} {i : Nat}
    (hfield : statementName p.field = .ok field) (hi : t.column? field = some i) (token : String) :
    p.select token db
      = .ok ((t.rows.find? fun r => (Line.ofRow r).isWaiting token).map fun r => cell r i) := by
  rw [PingTable.select]
  rw [hn, hfield]
  show db.first? n field (PingTable.unseen token) = _
  rw [first?_of_table? ht, h.first?_unseen token hi]

/-- A lookup answers this cell as it is, unless it is the received time. -/
theorem find_of_column (h : IsPings t) (ht : db.table? n = some t) (hn : statementName p.name = .ok n)
    {field : String} {i : Nat} (hfield : statementName p.field = .ok field)
    (hi : t.column? field = some i) (hne : p.field ≠ receivedColumn) (token : String) :
    p.find token db = .ok ((t.rows.find? fun r => (Line.ofRow r).isWaiting token).map fun r =>
      ⟨token, .value (cell r i)⟩) := by
  rw [PingTable.find]
  rw [h.select_of_column ht hn hfield hi]
  cases t.rows.find? fun r => (Line.ofRow r).isWaiting token with
  | none => rfl
  | some r =>
    simp only [Option.map_some]
    rw [shownValue.eq_def, if_neg hne]
    rfl

/-- A lookup finds a ping if one waits, and is never refused. -/
theorem find_eq (h : IsPings t) (ht : db.table? n = some t) (hn : statementName p.name = .ok n)
    (hf : p.field = tokenColumn) (token : String) :
    p.find token db = .ok (if (linesOf t).any (Line.isWaiting token) then
      some ⟨token, .value (.text token)⟩ else none) := by
  have hfield : statementName p.field = .ok tokenColumn := by
    rw [hf]
    decide
  have hne : p.field ≠ receivedColumn := by
    rw [hf]
    decide
  -- what the condition of the statement says of a row is what its line says
  have hwaits : (linesOf t).any (Line.isWaiting token)
      = t.rows.any fun r => (Line.ofRow r).isWaiting token := by
    rw [linesOf, List.any_map]
    rfl
  rw [h.find_of_column ht hn hfield h.column?_token hne, hwaits]
  cases hr : t.rows.find? fun r => (Line.ofRow r).isWaiting token with
  | none =>
    have hnone : (t.rows.any fun r => (Line.ofRow r).isWaiting token) = false := by
      rw [List.any_eq_false]
      exact List.find?_eq_none.mp hr
    rw [hnone]
    rfl
  | some r =>
    have hwait : (Line.ofRow r).isWaiting token = true :=
      List.find?_some (p := fun r => (Line.ofRow r).isWaiting token) hr
    have hany : (t.rows.any fun r => (Line.ofRow r).isWaiting token) = true :=
      List.any_eq_true.mpr ⟨r, List.mem_of_find?_eq_some hr, hwait⟩
    have hcell : cell r 0 = .text token := by
      rw [Line.isWaiting] at hwait
      exact eq_of_beq (Bool.and_eq_true_iff.mp hwait).1
    rw [hany, Option.map_some, hcell, if_pos rfl]

/-- A delivery whose delay has a place in a cell is always written, to the lines of its token and nowhere
else. -/
theorem exists_record (h : IsPings t) (ht : db.table? n = some t) (hn : statementName p.name = .ok n)
    (d : Delivery) (hd : fitsCell d.delay = true) :
    ∃ t', p.record d db = .ok (db.put t', ((linesOf t).filter (Line.isOf d.token)).length) ∧
      IsPings t' ∧ sameName t'.name n = true ∧ t' = { t with rows := t'.rows } ∧
      linesOf t' = (linesOf t).map fun l => if l.isOf d.token then l.receive d else l := by
  obtain ⟨t', hchange, hp', hrows, hlines⟩ := h.change_written d hd
  refine ⟨t', ?_, hp', ?_, hrows, hlines⟩
  · have hdb : db.change n (PingTable.written d) [(tokenColumn, .text d.token)]
        = .ok (db.put t', ((linesOf t).filter (Line.isOf d.token)).length) :=
      change_eq_ok.mpr ⟨t, t', ht, hchange, rfl⟩
    have hupdate : p.update d db = .ok (db.put t', ((linesOf t).filter (Line.isOf d.token)).length) := by
      rw [PingTable.update]
      rw [hn]
      exact hdb
    rw [PingTable.record]
    rw [hupdate]
  -- only rows change, so the table is still found under its name
  · have hname : t'.name = t.name := by rw [hrows]
    rw [hname]
    exact sameName_of_table? ht

end IsPings

/-! ### Databases that are ready -/

/-- A database with a table of pings under the name `n`, and another one of mail. -/
structure Ready (n : String) (db : Database) : Prop where
  pings : ∃ t, db.table? n = some t ∧ IsPings t
  mail : ∃ t, db.table? MailTable.name = some t ∧ IsMail t
  apart : sameName n MailTable.name = false

/-- The rows of mail in a database. -/
def mailRows (db : Database) : List Row := ((db.table? MailTable.name).map Table.rows).getD []

theorem mailOf_eq (db : Database) : mailOf db = (mailRows db).map Letter.ofRow := by
  unfold mailOf mailRows lettersOf
  cases db.table? MailTable.name with
  | none => rfl
  | some t => rfl

/-- What no message changes: the tables of other names, and the rows of mail that was kept before. -/
structure Frame (n : String) (db db' : Database) : Prop where
  others : ∀ name, sameName n name = false → sameName MailTable.name name = false →
    db'.table? name = db.table? name
  kept : mailRows db <+: mailRows db'

namespace Frame

variable {n : String} {db db' db'' : Database}

theorem refl (n : String) (db : Database) : Frame n db db :=
  ⟨fun _ _ _ => rfl, List.prefix_rfl⟩

theorem trans (h : Frame n db db') (h' : Frame n db' db'') : Frame n db db'' := by
  refine ⟨?_, h.kept.trans h'.kept⟩
  intro name hn hm
  rw [h'.others name hn hm, h.others name hn hm]

end Frame

namespace Ready

variable {n : String} {db : Database} {p : PingTable}

/-- Where a ping of the token waits, the lines of the token are those that wait. -/
theorem isOf_eq_isWaiting (h : Ready n db) {token : String}
    (hw : (Book.ofDatabase n db).waits token = true) {l : Line} (hl : l ∈ pingsOf n db) :
    l.isOf token = l.isWaiting token := by
  obtain ⟨t, ht, hp⟩ := h.pings
  rw [Book.waits, Book.ofDatabase] at hw
  rw [pingsOf_of_table? ht] at hw hl
  exact hp.isOf_eq_isWaiting hw hl

theorem find_of_ready (h : Ready n db) (hn : statementName p.name = .ok n)
    (hf : p.field = tokenColumn) (token : String) :
    p.find token db = .ok (if (Book.ofDatabase n db).waits token then
      some ⟨token, .value (.text token)⟩ else none) := by
  obtain ⟨t, ht, hp⟩ := h.pings
  rw [hp.find_eq ht hn hf, Book.waits, Book.ofDatabase, pingsOf_of_table? ht]

theorem record_of_ready (h : Ready n db) (hn : statementName p.name = .ok n) (token data : String)
    (now : Time) :
    ∃ db', p.record (Stage.delivery token data now) db
        = .ok (db', ((pingsOf n db).filter (Line.isOf token)).length) ∧ Ready n db' ∧
      Book.ofDatabase n db' = (Book.ofDatabase n db).write (Stage.delivery token data now) ∧
      Frame n db db' := by
  obtain ⟨t, ht, hp⟩ := h.pings
  obtain ⟨u, hu, hm⟩ := h.mail
  obtain ⟨t', hrecord, hp', hsame, -, hlines⟩ := hp.exists_record ht hn
    (Stage.delivery token data now) (Trace.fitsCell_recordedDelay data)
  -- the table of mail has another name, and so it is as it was
  have hother : ∀ name, sameName n name = false → (db.put t').table? name = db.table? name := by
    intro name hother
    refine table?_put_other db ?_
    rw [sameName_congr hsame]
    exact hother
  have hframe : Frame n db (db.put t') := by
    have hrows : mailRows (db.put t') = mailRows db := by
      simp only [mailRows]
      rw [hother _ h.apart]
    exact ⟨fun name hname _ => hother name hname, ⟨[], (List.append_nil _).trans hrows.symm⟩⟩
  refine ⟨db.put t', ?_, ⟨⟨t', table?_put ht hsame, hp'⟩, ⟨u, ?_, hm⟩, h.apart⟩, ?_, hframe⟩
  · rw [pingsOf_of_table? ht]
    exact hrecord
  · rw [hother _ h.apart]
    exact hu
  · simp only [Book.ofDatabase, Book.write, pingsOf, mailOf]
    rw [table?_put ht hsame, hother _ h.apart, ht]
    simp only [Option.map_some, Option.getD_some, hlines]

/-- A message with a queue id is always kept, as the last letter. -/
theorem insert_of_ready (h : Ready n db) {e : Envelope} (hq : e.queueId.isSome = true)
    (hcell : HasCell e) :
    ∃ db', MailTable.insert db e = .ok db' ∧ Ready n db' ∧
      Book.ofDatabase n db' = (Book.ofDatabase n db).keep e ∧ Frame n db db' := by
  obtain ⟨t, ht, hp⟩ := h.pings
  obtain ⟨u, hu, hm⟩ := h.mail
  obtain ⟨r, hinsert, hm', hletter⟩ := insert_eq_put hu hm hq hcell
  have hsame : sameName u.name MailTable.name = true := sameName_of_table? hu
  have hother : ∀ name, sameName MailTable.name name = false →
      (db.put { u with rows := u.rows ++ [r] }).table? name = db.table? name := by
    intro name hother
    refine table?_put_other db ?_
    show sameName u.name name = false
    rw [sameName_congr hsame]
    exact hother
  -- the table of pings has another name, and so it is as it was
  have hapart : sameName MailTable.name n = false := by
    rw [sameName_comm]
    exact h.apart
  have hput : (db.put { u with rows := u.rows ++ [r] }).table? MailTable.name
      = some { u with rows := u.rows ++ [r] } := table?_put hu hsame
  refine ⟨_, hinsert, ⟨⟨t, ?_, hp⟩, ⟨_, hput, hm'⟩, h.apart⟩, ?_, ?_⟩
  · rw [hother _ hapart]
    exact ht
  · unfold Book.ofDatabase Book.keep pingsOf mailOf lettersOf
    rw [hput, hother _ hapart, hu]
    simp only [Option.map_some, Option.getD_some, List.map_append, List.map_cons, List.map_nil,
      hletter]
  · refine ⟨fun name _ hname => hother name hname, ?_⟩
    simp only [mailRows]
    rw [hput, hu]
    exact List.prefix_append u.rows [r]

end Ready

/-! ### A small ledger -/

namespace Sample

/-- A table of pings with the usual name. -/
def pings : PingTable := ⟨"pings", tokenColumn, pingColumns⟩

/-- One ping that waits for its mail. -/
def table : Table :=
  { name := "pings", columns := pingColumns,
    rows := [⟨1, [.text "x", .int 0, .null, .null, .null, .null]⟩] }

/-- A database that holds this ping and no mail. -/
def database : Database := { tables := [table, MailTable.empty] }

/-- A message for this ping. -/
def letter : Envelope := { data := "Subject: guid: x\n\nhello", queueId := some "q" }

def noon : Time := { year := 2024, month := 5, day := 1, hour := 12, minute := 0, second := 0 }

theorem isPings_table : IsPings table := by
  refine ⟨⟨[], rfl, rfl⟩, ?_, ?_, ?_⟩
  · intro r hr
    rw [List.mem_singleton.mp hr]
    rfl
  · intro r hr
    rw [List.mem_singleton.mp hr]
    rfl
  · exact List.pairwise_singleton _ _

theorem isMail_empty : IsMail MailTable.empty :=
  ⟨rfl, ⟨nofun, nofun, List.Pairwise.nil⟩, nofun⟩

theorem ready_database : Ready "pings" database :=
  ⟨⟨table, rfl, isPings_table⟩, ⟨MailTable.empty, rfl, isMail_empty⟩, by decide⟩

end Sample

end DeliveryWatch.Ledger
