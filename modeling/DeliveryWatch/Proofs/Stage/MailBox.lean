/-
The mail table, and what a message that is kept adds to it.

* `IsMail` — a table with the columns of the mail box, whose rows keep the rules and stand under
  their own numbers;
* `Letter` — what a row keeps of a message: its text and its queue id;
* `insert_letter` — a message with a queue id is always taken by such a table, as a new last row;
* `isMail_of_create` — activation makes such a table where there is none of its name.
-/
import DeliveryWatch.Proofs.Database.Sound
import DeliveryWatch.Stage.MailBox

namespace DeliveryWatch.MailTable

open Database Table Outcome

/-- A table of mail. -/
structure IsMail (t : Table) : Prop where
  columns : t.columns = empty.columns
  sound : t.Sound
  numbered : ∀ r ∈ t.rows, cell r 0 = .int r.number

/-- What a row of the mail table keeps of a message. -/
structure Letter where
  data : Value
  queueId : Value
  deriving Repr, DecidableEq

/-- The letter of a row. -/
def Letter.ofRow (r : Row) : Letter := ⟨cell r 9, cell r 1⟩

/-- The letter of a message. -/
def Letter.ofEnvelope (e : Envelope) : Letter := ⟨.text e.data, .ofText? e.queueId⟩

/-- The letters of a table of mail. -/
def lettersOf (t : Table) : List Letter := t.rows.map Letter.ofRow

/-- Whether a cell can keep what is annotated as the id of the message. -/
def HasCell (e : Envelope) : Prop :=
  ∃ v, Value.ofJson? ((e.note? Envelope.messageIdKey).getD .null) = some v ∧
    ∀ n, v = .int n → fitsCell n = true

theorem ofText?_ne_int (s : Option String) (n : Int) : Value.ofText? s ≠ .int n := by
  cases s with
  | none => exact Value.noConfusion
  | some s => exact Value.noConfusion

namespace IsMail

variable {t : Table}

/-- The values of a new row. -/
theorem newValues_eq (h : IsMail t) (e : Envelope) (v : Value) {q : String}
    (hq : e.queueId = some q) :
    ∃ id sender recipients subject remote greeting header,
      t.newValues (cells e v) = [.null, .text q, id, sender, recipients, subject, remote, greeting,
        header, .text e.data, .text ""] := by
  rw [newValues]
  rw [h.columns]
  rw [cells]
  rw [hq]
  exact ⟨_, _, _, _, _, _, _, rfl⟩

theorem numberOf_eq (h : IsMail t) {vs : List Value} :
    t.numberOf (.null :: vs) = .ok t.nextNumber := by
  rw [numberOf]
  rw [h.columns]
  rfl

theorem clash_eq (h : IsMail t) (r s : Row) :
    t.clash r s = (cell r 0 != .null && cell r 0 == cell s 0) := by
  have hu : t.uniqueColumns = empty.uniqueColumns := by
    simp only [uniqueColumns]
    rw [h.columns]
  rw [clash]
  rw [hu]
  exact Bool.or_false _

theorem checkColumns_eq (h : IsMail t) (e : Envelope) (v : Value) :
    t.checkColumns ((cells e v).map (·.1)) = .ok () := by
  have hnames : (cells e v).map (·.1) = ["queued_id", "message_id", "mail_from", "rcpt_to",
      "subject", "remote_ip", "helo", "delivery_header", "data", "created_at"] := by rfl
  have hc : ∀ n, t.column? n = empty.column? n := by
    intro n
    simp only [column?]
    rw [h.columns]
  have hall : ["queued_id", "message_id", "mail_from", "rcpt_to", "subject", "remote_ip", "helo",
      "delivery_header", "data", "created_at"].all (fun n => (empty.column? n).isSome) = true := by
    decide
  refine checkColumns_eq_ok.mpr ?_
  intro n hn
  rw [hnames] at hn
  rw [hc]
  exact List.all_eq_true.mp hall n hn

/-- A message with a queue id is always taken, as a new last row. -/
theorem insert_letter (h : IsMail t) {e : Envelope} {q : String} (hq : e.queueId = some q)
    {v : Value} (hv : ∀ n, v = .int n → fitsCell n = true) :
    ∃ r, t.insert (cells e v) = .ok { t with rows := t.rows ++ [r] } ∧
      IsMail { t with rows := t.rows ++ [r] } ∧ Letter.ofRow r = Letter.ofEnvelope e := by
  obtain ⟨id, sender, recipients, subject, remote, greeting, header, hnew⟩ := h.newValues_eq e v hq
  have hvalues : (t.newRow (cells e v) t.nextNumber).values =
      [.int t.nextNumber, .text q, id, sender, recipients, subject, remote, greeting, header,
        .text e.data, .text ""] := by
    rw [newRow, withNumber]
    rw [hnew, h.columns]
    rfl
  set r := t.newRow (cells e v) t.nextNumber with hr
  have hcell : cell r 0 = .int t.nextNumber := by
    rw [cell]
    rw [hvalues]
    rfl
  have hcells : checkCells (cells e v) = .ok () := by
    refine checkCells_eq_ok.mpr ?_
    intro name n hmem
    have hn : name = "message_id" ∧ v = .int n := by
      simpa [cells, (ofText?_ne_int _ n).symm, eq_comm] using hmem
    exact hv n hn.2
  have hplace : place r t.rows = t.rows ++ [r] := by
    refine place_last ?_
    intro s hs
    exact t.number_lt_nextNumber hs
  have hkept : t.keepsColumns r = true := by
    rw [keepsColumns]
    rw [h.columns, hvalues]
    rfl
  -- only the number has to be unique, and the next number is greater than all others
  have hfree : (t.rows.any fun s => t.clash r s || s.number == t.nextNumber) = false := by
    rw [List.any_eq_false]
    intro s hs
    have hlt := t.number_lt_nextNumber hs
    rw [h.clash_eq, hcell, h.numbered s hs]
    simp
    omega
  have hinsert : t.insert (cells e v) = .ok { t with rows := t.rows ++ [r] } := by
    refine insert_eq_ok.mpr ⟨rfl, h.checkColumns_eq e v, hcells, t.nextNumber, ?_, hkept, hfree, ?_⟩
    · rw [hnew]
      exact h.numberOf_eq
    · rw [hplace]
  refine ⟨r, hinsert, ⟨h.columns, h.sound.insert hinsert, ?_⟩, ?_⟩
  · intro s hs
    rcases List.mem_append.mp hs with hs | hs
    · exact h.numbered s hs
    · rw [List.mem_singleton.mp hs, hcell]
      rfl
  · simp only [Letter.ofRow, Letter.ofEnvelope, cell]
    rw [hvalues, hq]
    rfl

end IsMail

/-! ### The table in a database -/

theorem insert_eq_put {db : Database} {t : Table} (ht : db.table? name = some t) (h : IsMail t)
    {e : Envelope} (hq : e.queueId.isSome = true) (hcell : HasCell e) :
    ∃ r, MailTable.insert db e = .ok (db.put { t with rows := t.rows ++ [r] }) ∧
      IsMail { t with rows := t.rows ++ [r] } ∧ Letter.ofRow r = Letter.ofEnvelope e := by
  obtain ⟨q, hq⟩ := Option.isSome_iff_exists.mp hq
  obtain ⟨v, hv, hfit⟩ := hcell
  obtain ⟨r, hr, hmail, hletter⟩ := h.insert_letter hq hfit
  refine ⟨r, ?_, hmail, hletter⟩
  rw [MailTable.insert]
  rw [bind_eq_ok]
  refine ⟨t, demand_eq_ok.mpr ht, bind_eq_ok.mpr ⟨(), h.checkColumns_eq e .null, ?_⟩⟩
  rw [hv]
  exact Database.insert_eq_ok.mpr ⟨t, _, ht, hr, rfl⟩

/-- Activation makes a table of mail where there is none of its name, and no other table. -/
theorem isMail_of_create {db db' : Database} (h : MailTable.create db = (.ok (), db'))
    (hdb : ∀ t, db.table? name = some t → IsMail t) :
    (∃ t, db'.table? name = some t ∧ IsMail t ∧
      t.rows = ((db.table? name).map Table.rows).getD []) ∧
      ∀ other, sameName name other = false → db'.table? other = db.table? other := by
  rw [MailTable.create] at h
  cases ht : db.table? name with
  | some t =>
    rw [ht] at h
    cases h
    exact ⟨⟨t, ht, hdb t ht, rfl⟩, fun _ _ => rfl⟩
  | none =>
    rw [ht] at h
    simp only [Option.isSome_none, Bool.false_eq_true, if_false] at h
    split at h
    · cases h
    · rename_i made hmade
      split at h
      · cases h
      · cases h
        -- the table is found where there was none, and it has no rows
        have hfound := table?_create hmade name
        rw [ht] at hfound
        have hput : (made.put { empty with indexes := [indexName] }).table? name
            = some { empty with indexes := [indexName] } :=
          table?_put hfound (by decide)
        refine ⟨⟨_, hput, ⟨rfl, ⟨?_, ?_, List.Pairwise.nil⟩, ?_⟩, rfl⟩, ?_⟩
        · intro r hr
          cases hr
        · intro r hr
          cases hr
        · intro r hr
          cases hr
        · intro other ho
          rw [table?_put_other made ho, table?_create hmade]
          have hname : sameName empty.name other = false := ho
          rw [hname]
          simp

end DeliveryWatch.MailTable
