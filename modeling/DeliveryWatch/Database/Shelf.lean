/-
Databases by their addresses, and the connections to them.

* `Connection.ofUrl` — the connection for the address of a database. A database in memory has one
  connection for all, a database in a file takes what is usual, and a server has a pool of them;
* `Location.ofUrl?` — where the database of an address is: in memory, or in a file;
* `Shelf.database` — the database of a location. One in memory is new each time, one in a folder that
  does not exist cannot be opened;
* `Shelf.put` keeps a changed database for the next time.
-/
import DeliveryWatch.Database.Table
import DeliveryWatch.Text.Basic

namespace DeliveryWatch.Database

/-! ### Connections -/

/-- How many connections are kept. -/
inductive Pool
  /-- One for everybody, who then see the same database in memory. -/
  | shared
  /-- What is usual for a database in a file. -/
  | usual
  /-- A number of them, and how many more may be opened for a while. -/
  | sized (size overflow : Int)
  deriving Repr, DecidableEq

/-- What connections to a database are like. -/
structure Connection where
  url : String
  pool : Pool
  /-- Whether a connection is tried out before it is used again. -/
  triesOut : Bool := true
  /-- Whether statements are written to the log. -/
  logsStatements : Bool := false
  deriving Repr, DecidableEq

/-- The scheme of databases that this program holds by itself, without a server. -/
def localScheme : String := "sqlite"

namespace Connection

/-- Whether an address is that of a database without a server. -/
def isLocal (url : String) : Bool := localScheme.toList.isPrefixOf url.toList

/-- Whether an address is that of a database in memory: it says so, or it names no file. -/
def isInMemory (url : String) : Bool :=
  Text.holds ":memory:".toList url.toList ||
    Text.dropEndWhile (· == '/') url.toList == (localScheme ++ ":").toList

/-- The connection for an address; the numbers count for servers only. -/
def ofUrl (url : String) (size overflow : Int) : Connection where
  url := url
  pool :=
    if !isLocal url then .sized size overflow
    else if isInMemory url then .shared
    else .usual

/-- Whether the connection must stay with the thread that opened it, which only databases without a
server ask for. -/
def staysWithThread? (c : Connection) : Option Bool := if isLocal c.url then some false else none

end Connection

/-! ### Locations -/

/-- Where a database is. -/
inductive Location
  | memory
  /-- A file; the folders lead to it, from the present one or from the root. -/
  | file (folders : List String) (name : String)
  deriving Repr, DecidableEq

/-- Why an address has no location. -/
inductive LocationFault
  /-- The address has not the form of one. -/
  | malformed
  /-- The kind of database is unknown. -/
  | unknownKind
  deriving Repr, DecidableEq

namespace Location

/-- Characters of the scheme of an address. -/
def isSchemeChar (c : Char) : Bool := c.isAlphanum || c == '_' || c == '+' || 128 ≤ c.toNat

/-- The location of a path. Points for the folder itself and empty folders do not count. -/
def ofPath (path : List Char) : Location :=
  let parts := (path.splitOn '/').map String.ofList
  let root := if path.head? == some '/' then ["/"] else []
  .file (root ++ parts.dropLast.filter fun p => p != "" && p != ".") (parts.getLast?.getD "")

/-- The location that an address states behind its scheme. -/
def ofRest? : List Char → Except LocationFault Location
  | [] => .ok .memory
  | '?' :: _ => .ok .memory
  | '/' :: r =>
    let path := r.takeWhile (· != '?')
    if path.isEmpty || path == ":memory:".toList then .ok .memory else .ok (ofPath path)
  | _ => .error .malformed

/-- The location of an address. -/
def ofUrl? (url : String) : Except LocationFault Location :=
  let scheme := url.toList.takeWhile isSchemeChar
  match "://".toList.isPrefixOf? (url.toList.dropWhile isSchemeChar) with
  | none => .error .malformed
  | some rest =>
    if scheme.isEmpty then .error .malformed
    else if scheme == localScheme.toList || scheme == (localScheme ++ "+pysqlite").toList then
      ofRest? rest
    else .error .unknownKind

/-- Whether a file of the name can be. -/
def isFileName (name : String) : Bool := name != "" && name != "." && name != ".."

end Location

/-- Databases in files, and the folders that exist. -/
structure Shelf where
  files : List (Location × Database) := []
  folders : List (List String) := [[]]
  deriving Repr

namespace Shelf

/-- Whether a database can be at a location. -/
def reaches (s : Shelf) : Location → Bool
  | .memory => true
  | .file folders name => s.folders.contains folders && Location.isFileName name

/-- The database at a location. -/
def database (s : Shelf) (l : Location) : Database :=
  if !s.reaches l then { isOpen := false }
  else match l with
    | .memory => {}
    | .file _ _ => (s.files.lookup l).getD {}

/-- Keep a database at a location; one in memory is not kept. -/
def put (s : Shelf) (l : Location) (db : Database) : Shelf :=
  match l with
  | .memory => s
  | .file _ _ =>
    if s.reaches l then { s with files := (l, db) :: s.files.filter fun f => f.1 != l } else s

end Shelf

end DeliveryWatch.Database
