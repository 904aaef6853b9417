/-
The table of pings: one row for each probe mail that was sent, waiting for its delivery, and the store
that the table makes up.

* `PingTable.describe? name field` — the columns of the table for configured names: the token, the
  mark that the mail was seen, what a delivery writes, and the lookup field if it is none of these;
* `PingTable.create` and `PingTable.add` — the table in a database, and a new ping in it;
* `PingTable.validate`, `PingTable.find`, `PingTable.record` — the operations of the store, each of them
  one statement on a database;
* `PingTable.store` — the store that they make up on resources that hold a database.

A fault that the database reports becomes a fault of the store. A number that is too large for a cell,
and a received time that is no time, are faults that nobody expects.
-/
import DeliveryWatch.Database.Name
import DeliveryWatch.Ledger.Store
import DeliveryWatch.Time.IsoText

namespace DeliveryWatch.Ledger

open Database

/-! ### The table -/

/-- The column of the token. -/
def tokenColumn : String := "guid"

/-- The column that tells whether the mail of a ping was seen. -/
def seenColumn : String := "seen"

/-- A table of pings, and the column that a lookup reads. -/
structure PingTable where
  name : String
  field : String
  columns : List Column
  deriving Repr, DecidableEq

/-- The columns that every table of pings has. -/
def pingColumns : List Column :=
  [{ name := tokenColumn, type := "VARCHAR(255)", nullable := false, isKey := true },
   { name := seenColumn, type := "SMALLINT", nullable := false, default := .int 0 },
   { name := "time_taken", type := "INTEGER" },
   { name := "header", type := "TEXT" },
   { name := "body", type := "TEXT" },
   { name := "received_time", type := "DATETIME" }]

/-- The table for configured names; the lookup field gets a column of its own if it names none. -/
def PingTable.describe? (name field : Option String) : Except NameFault PingTable := do
  let name ← checkName "lookup table name" name
  let field ← checkName "lookup field name" field
  let extra : List Column :=
    if (pingColumns.map Column.name).contains field then [] else [{ name := field, type := "TEXT" }]
  return ⟨name, field, pingColumns ++ extra⟩

/-- Create the table in a database, if the database has nothing of this name that can be read yet. -/
def PingTable.create (p : PingTable) (db : Database) : Except Database.Fault Database :=
  if db.isTooLong p.name then .error .nameTooLong
  else if db.isReadable p.name then .ok db
  else do
    let name ← statementName p.name
    let columns ← p.columns.mapM fun c => do return { c with name := ← statementName c.name }
    db.create { name := name, columns := columns }

/-- Add the ping of a token, whose mail was not seen yet. -/
def PingTable.add (p : PingTable) (token : String) (db : Database) :
    Except Database.Fault Database := do
  db.insert (← statementName p.name) [(tokenColumn, .text token), (seenColumn, .int 0)]

/-! ### The store -/

/-- The column of the time at which a mail was received. -/
def receivedColumn : String := "received_time"

/-- The fault of a failed statement, with `account` for one that the database reports. -/
def statementFault (account : String → Fault) (f : Database.Fault) : DeliveryWatch.Fault :=
  if f.isReported then account f.message else .tooLarge

/-- What a lookup shows of a value: a received time is a time, all other values are shown as they
are. -/
def shownValue (field : String) (v : Value) : Except DeliveryWatch.Fault Found :=
  if field = receivedColumn then
    match v with
    | .null => .ok (.value .null)
    | .text s =>
      match IsoText.timeOf s with
      | .ok t => .ok (.time t)
      | .error f => .error (.other "ValueError" f.message)
    | _ => .error (.other "TypeError" "fromisoformat: argument must be str")
  else .ok (.value v)

namespace PingTable

/-- Check that the table can be read. -/
def validate (p : PingTable) (db : Database) : Except DeliveryWatch.Fault Unit :=
  let unreadable (f : Database.Fault) : DeliveryWatch.Fault :=
    .lookup ("Cannot select from table " ++ p.name ++ ": " ++ f.message)
  match statementName p.name with
  | .ok name => if db.isReadable name then .ok () else .error (unreadable .operational)
  | .error f => .error (unreadable f)

/-- The conditions that the ping of a token meets while it was not seen. -/
def unseen (token : String) : List (String × Value) :=
  [(tokenColumn, .text token), (seenColumn, .int 0)]

/-- The value of the lookup field of the ping of a token, if there is one that was not seen. -/
def select (p : PingTable) (token : String) (db : Database) :
    Except Database.Fault (Option Value) := do
  db.first? (← statementName p.name) (← statementName p.field) (unseen token)

/-- The ping of a token, if there is one that was not seen. -/
def find (p : PingTable) (token : String) (db : Database) :
    Except DeliveryWatch.Fault (Option Ping) :=
  match p.select token db with
  | .error f =>
    .error (statementFault (fun m => .lookup ("Could not lookup GUID " ++ token ++ ": " ++ m)) f)
  | .ok none => .ok none
  | .ok (some v) => do return some ⟨token, ← shownValue p.field v⟩

/-- What a delivery writes, and the mark that the mail was seen. -/
def written (d : Delivery) : List (String × Value) :=
  [("time_taken", .int d.delay), ("header", .text d.header), ("body", .text d.body),
   (receivedColumn, .text d.receivedTime.ledgerText), (seenColumn, .int 1)]

/-- Write a delivery to the pings of its token. -/
def update (p : PingTable) (d : Delivery) (db : Database) :
    Except Database.Fault (Database × Nat) := do
  db.change (← statementName p.name) (written d) [(tokenColumn, .text d.token)]

/-- Write a delivery to its ping and mark it seen. -/
def record (p : PingTable) (d : Delivery) (db : Database) :
    Except DeliveryWatch.Fault (Database × Nat) :=
  match p.update d db with
  | .ok r => .ok r
  | .error f =>
    let account (m : String) : DeliveryWatch.Fault :=
      .update ("Could not update delay for GUID " ++ d.token ++ ": " ++ m)
    .error (statementFault account f)

variable {σ : Type}

/-- The store of a table of pings in a database. -/
def store (p : PingTable) (access : Access σ) : Store σ where
  validate r :=
    match p.validate (access.get r) with
    | .ok () => ⟨.ok (), r, [(.info, "Correlation table " ++ p.name ++ " is readable")]⟩
    | .error f => ⟨.error f, r, []⟩
  find token r := ⟨p.find token (access.get r), r, []⟩
  record d r :=
    match p.record d (access.get r) with
    | .ok (db, 0) =>
      ⟨.ok 0, access.put db r,
        [(.warning, "Delivery update for GUID " ++ d.token ++ " matched no rows")]⟩
    | .ok (db, n) => ⟨.ok n, access.put db r, []⟩
    | .error f => ⟨.error f, r, []⟩

end PingTable

end DeliveryWatch.Ledger
