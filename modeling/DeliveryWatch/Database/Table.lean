/-
Tables and the statements on them: create, drop, insert, find and change.

* names of tables and columns are the same if they differ in ASCII case only (`sameName`);
* every statement either succeeds or leaves the database as it was: it answers the new database or
  a `Fault`;
* the rows of a table stand in the order of their numbers, which is the order in which they came
  unless a key column numbers them;
* `Access σ` — how to reach the database in resources of the kind `σ`, and how to put another one in
  its place.
-/
import DeliveryWatch.Database.Value
import DeliveryWatch.Text.Case

namespace DeliveryWatch.Database

/-- Why a statement failed. -/
inductive Fault
  /-- A table or column is missing or exists already, or a name cannot be used. -/
  | operational
  /-- A row would break a rule of its table. -/
  | integrity
  /-- A value has no form that a cell can keep. -/
  | unbindable
  /-- A table is to have a name that is longer than names may be. -/
  | nameTooLong
  /-- A whole number is too large for a cell; the caller has to see to this. -/
  | tooLarge
  deriving Repr, DecidableEq

namespace Fault

/-- The name of the fault. -/
def name : Fault → String
  | operational => "OperationalError"
  | integrity => "IntegrityError"
  | unbindable => "ProgrammingError"
  | nameTooLong => "IdentifierError"
  | tooLarge => "OverflowError"

/-- The fault in reports. -/
def message (f : Fault) : String := "(" ++ f.name ++ ")"

/-- Whether the database reports the fault, rather than the caller's own arithmetic. -/
def isReported (f : Fault) : Bool := f != tooLarge

end Fault

structure Column where
  name : String
  type : String
  nullable : Bool := true
  isKey : Bool := false
  isUnique : Bool := false
  default : Value := .null
  deriving Repr, DecidableEq

namespace Column

def affinity (c : Column) : Affinity := Affinity.ofType c.type

/-- Whether the column holds the number of the row itself. -/
def isRowNumber (c : Column) : Bool :=
  c.isKey && Text.lowerAscii c.type.toList == "integer".toList

end Column

/-- A row: its number in the table, and a value for each column. -/
structure Row where
  number : Int
  values : List Value
  deriving Repr, DecidableEq

structure Table where
  name : String
  columns : List Column
  indexes : List String := []
  rows : List Row := []
  deriving Repr, DecidableEq

/-- Names are compared without regard to ASCII case. -/
def sameName (a b : String) : Bool := Text.lowerAscii a.toList == Text.lowerAscii b.toList

namespace Table

/-- The place of a column. -/
def column? (t : Table) (name : String) : Option Nat :=
  t.columns.findIdx? fun c => sameName c.name name

/-- The columns that no two rows may agree on. -/
def uniqueColumns (t : Table) : List (Nat × Column) :=
  (t.columns.zipIdx.map fun (c, i) => (i, c)).filter fun (_, c) => c.isKey || c.isUnique

/-- The value of a row in a column. -/
def cell (r : Row) (i : Nat) : Value := (r.values[i]?).getD .null

/-- Whether a row keeps the rules of its columns. -/
def keepsColumns (t : Table) (r : Row) : Bool :=
  (List.zip t.columns r.values).all fun (c, v) =>
    c.nullable || c.isRowNumber || v != .null

/-- Whether two rows agree on a column that has to be unique. -/
def clash (t : Table) (r s : Row) : Bool :=
  t.uniqueColumns.any fun (i, _) => cell r i != .null && cell r i == cell s i

/-- Whether no two rows agree on a column that has to be unique. -/
def allDistinct (t : Table) : List Row → Bool
  | [] => true
  | r :: rs => !rs.any (t.clash r) && t.allDistinct rs

/-- The number after the greatest number of a row. -/
def nextNumber (t : Table) : Int := (t.rows.map Row.number).foldl max 0 + 1

/-- Put a row at its place. -/
def place (r : Row) : List Row → List Row
  | [] => [r]
  | s :: rest => if r.number < s.number then r :: s :: rest else s :: place r rest

/-- The number of a new row: given by the column that holds the numbers, or else the next one. -/
def numberOf (t : Table) (values : List Value) : Except Fault Int :=
  match t.columns.findIdx? Column.isRowNumber with
  | none => .ok t.nextNumber
  | some i =>
    match values[i]? with
    | some (.int n) => .ok n
    | some .null => .ok t.nextNumber
    | _ => .error .integrity

/-- Write the number of a row into the column that holds the numbers. -/
def withNumber (t : Table) (n : Int) (values : List Value) : List Value :=
  List.zipWith (fun c v => if c.isRowNumber then .int n else v) t.columns values

/-- Check that every value has a place in a cell. -/
def checkCells (cells : List (String × Value)) : Except Fault Unit :=
  if cells.all fun (_, v) => match v with
    | .int n => fitsCell n
    | _ => true
  then .ok () else .error .tooLarge

/-- Check that the table has all these columns. -/
def checkColumns (t : Table) (names : List String) : Except Fault Unit :=
  if names.all fun n => (t.column? n).isSome then .ok () else .error .operational

/-- The value that the cells give to a column. -/
def given? (cells : List (String × Value)) (c : Column) : Option Value :=
  (cells.find? fun (n, _) => sameName n c.name).map (·.2)

/-- Insert a row with the given cells; the other cells have the defaults of their columns. -/
def insert (t : Table) (cells : List (String × Value)) : Except Fault Table := do
  if cells.isEmpty then .error .operational
  t.checkColumns (cells.map (·.1))
  checkCells cells
  let values := t.columns.map fun c => c.affinity.store ((given? cells c).getD c.default)
  let n ← t.numberOf values
  let row : Row := ⟨n, t.withNumber n values⟩
  if !t.keepsColumns row then .error .integrity
  if t.rows.any fun r => t.clash row r || r.number == n then .error .integrity
  return { t with rows := place row t.rows }

/-- Whether a row meets all conditions, each a column and the value it has to equal. -/
def meets (t : Table) (conditions : List (String × Value)) (r : Row) : Bool :=
  conditions.all fun (name, v) =>
    match t.column? name with
    | some i => match t.columns[i]? with
      | some c => c.affinity.agrees (cell r i) v
      | none => false
    | none => false

/-- Names for the number of a row, in tables without columns of these names. -/
def rowNumberNames : List String := ["rowid", "oid", "_rowid_"]

/-- What a name stands for in the rows of the table: the column of this name, or else the number of
the row. -/
def reader (t : Table) (name : String) : Except Fault (Row → Value) :=
  match t.column? name with
  | some i => .ok fun r => cell r i
  | none => if rowNumberNames.any (sameName name) then .ok fun r => .int r.number
    else .error .operational

/-- What a name stands for in the first row that meets the conditions. -/
def first? (t : Table) (name : String) (conditions : List (String × Value)) :
    Except Fault (Option Value) := do
  let read ← t.reader name
  t.checkColumns (conditions.map (·.1))
  checkCells conditions
  return (t.rows.find? (t.meets conditions)).map read

/-- The row with the given cells changed. -/
def changeRow (t : Table) (cells : List (String × Value)) (r : Row) : Row :=
  let changed (c : Column) (v : Value) : Value := ((given? cells c).map c.affinity.store).getD v
  { r with values := List.zipWith changed t.columns r.values }

/-- The whole number in a cell. -/
def number? (i : Nat) (r : Row) : Option Int :=
  match cell r i with
  | .int n => some n
  | _ => none

/-- Changed rows under the numbers that they hold, in the order of these. Only a change that gives a
cell to the column of the numbers can make other ones. -/
def renumber (t : Table) (cells : List (String × Value)) (rows : List Row) :
    Except Fault (List Row) :=
  match t.columns.findIdx? fun c => c.isRowNumber && (given? cells c).isSome with
  | none => .ok rows
  | some i =>
    if rows.all fun r => (number? i r).isSome then
      .ok ((rows.map fun r => { r with number := (number? i r).getD r.number }).foldr place [])
    else .error .integrity

/-- Change cells in all rows that meet the conditions; the answer tells how many these are. -/
def change (t : Table) (cells conditions : List (String × Value)) : Except Fault (Table × Nat) := do
  t.checkColumns (cells.map (·.1) ++ conditions.map (·.1))
  checkCells (cells ++ conditions)
  let rows := t.rows.map fun r => if t.meets conditions r then t.changeRow cells r else r
  if !rows.all t.keepsColumns || !t.allDistinct rows then .error .integrity
  let rows ← t.renumber cells rows
  return ({ t with rows := rows }, (t.rows.filter (t.meets conditions)).length)

end Table

end DeliveryWatch.Database

namespace DeliveryWatch

open Database

/-- A database: its tables in the order of their creation. -/
structure Database where
  tables : List Database.Table := []
  /-- Whether tables can be added; a database that cannot be opened has none and takes none. -/
  isOpen : Bool := true
  deriving Repr, DecidableEq, Inhabited

namespace Database

/-- The table of a name. -/
def table? (db : Database) (name : String) : Option Table :=
  db.tables.find? fun t => sameName t.name name

/-- Whether a name belongs to a table or an index. -/
def isTaken (db : Database) (name : String) : Bool :=
  db.tables.any fun t => sameName t.name name || t.indexes.any (sameName name)

/-- Names that tables of the user may not have. -/
def isReservedName (name : String) : Bool :=
  "sqlite_".toList.isPrefixOf (Text.lowerAscii name.toList)

/-- Whether no name occurs twice. -/
def distinctNames : List String → Bool
  | [] => true
  | n :: ns => !ns.any (sameName n) && distinctNames ns

/-- Add a new table without rows. -/
def create (db : Database) (t : Table) : Except Fault Database :=
  if !db.isOpen || db.isTaken t.name || isReservedName t.name || t.columns.isEmpty ||
      !distinctNames (t.columns.map Column.name) || 1 < (t.columns.filter Column.isKey).length then
    .error .operational
  else if t.indexes.any db.isTaken then .error .operational
  else .ok { db with tables := db.tables ++ [t] }

/-- Remove a table. -/
def drop (db : Database) (name : String) : Except Fault Database :=
  match db.table? name with
  | some _ => .ok { db with tables := db.tables.filter fun t => !sameName t.name name }
  | none => .error .operational

/-- Put a changed table in its place. -/
def put (db : Database) (t : Table) : Database :=
  { db with tables := db.tables.map fun u => if sameName u.name t.name then t else u }

/-- The table of a name, or the fault that there is none. -/
def demand (db : Database) (name : String) : Except Fault Table :=
  match db.table? name with
  | some t => .ok t
  | none => .error .operational

/-- Names under which a database describes its own tables. They can be read like tables. -/
def schemaNames : List String :=
  ["sqlite_master", "sqlite_schema", "sqlite_temp_master", "sqlite_temp_schema"]

/-- The settings of a database that can be read like tables. -/
def readableSettings : List String :=
  ["analysis_limit", "application_id", "auto_vacuum", "automatic_index", "busy_timeout",
   "cache_size", "cache_spill", "cell_size_check", "checkpoint_fullfsync", "collation_list",
   "compile_options", "count_changes", "data_version", "database_list", "default_cache_size",
   "defer_foreign_keys", "empty_result_callbacks", "encoding", "foreign_key_check",
   "foreign_key_list", "foreign_keys", "freelist_count", "full_column_names", "fullfsync",
   "function_list", "hard_heap_limit", "ignore_check_constraints", "index_info", "index_list",
   "index_xinfo", "integrity_check", "journal_mode", "journal_size_limit", "legacy_alter_table",
   "locking_mode", "max_page_count", "module_list", "optimize", "page_count", "page_size",
   "pragma_list", "query_only", "quick_check", "read_uncommitted", "recursive_triggers",
   "reverse_unordered_selects", "schema_version", "secure_delete", "short_column_names",
   "soft_heap_limit", "synchronous", "table_info", "table_list", "table_xinfo", "temp_store",
   "threads", "trusted_schema", "user_version", "writable_schema"]

/-- Whether a table of this name comes with the database, as it is usually built. Such tables can be
read, but they have no columns of the user's, and a table may be added under the same name. -/
def isVirtualName (name : String) : Bool :=
  let s := Text.lowerAscii name.toList
  s == "json_each".toList || s == "json_tree".toList ||
    ("pragma_".toList.isPrefixOf? s).any fun setting => readableSettings.any (·.toList == setting)

/-- Whether a name belongs to something that can be read as a table. -/
def isReadable (db : Database) (name : String) : Bool :=
  (db.table? name).isSome || db.isOpen && (schemaNames.any (sameName name) || isVirtualName name)

/-- How many characters the name of a new table may have. -/
def nameLimit : Nat := 9999

/-- Whether a new table is refused for the length of its name. -/
def isTooLong (db : Database) (name : String) : Bool := db.isOpen && nameLimit < name.length

/-- Insert a row into a table. -/
def insert (db : Database) (name : String) (cells : List (String × Value)) :
    Except Fault Database := do
  let t ← db.demand name
  let t ← t.insert cells
  return db.put t

/-- What a name stands for in the first row of a table that meets the conditions. -/
def first? (db : Database) (name column : String) (conditions : List (String × Value)) :
    Except Fault (Option Value) := do
  let t ← db.demand name
  t.first? column conditions

/-- Change cells in all rows of a table that meet the conditions. -/
def change (db : Database) (name : String) (cells conditions : List (String × Value)) :
    Except Fault (Database × Nat) := do
  let t ← db.demand name
  let (t, n) ← t.change cells conditions
  return (db.put t, n)

end Database

/-- How to reach the database in resources of the kind `σ`. -/
structure Access (σ : Type) where
  get : σ → Database
  put : Database → σ → σ

end DeliveryWatch
