/-
Names of tables and columns, from the configuration into statements, and what statements declare.

* `checkName what value` lets a configured name through if it is a letter or underscore followed by
  letters, digits and underscores; one line feed may stand at its end;
* `statementName name` — the name that a statement refers to when it is made for `name`: names with
  capitals and reserved words are quoted and stay as they are, all others are written bare, and a
  bare name loses the line feed at its end and must be no keyword;
* `Column.declared? name text` — the column that a text such as `INTEGER NOT NULL DEFAULT 0`
  declares. The rules are `PRIMARY KEY`, `NOT NULL`, `NULL`, `UNIQUE` and `DEFAULT` with a value.
-/
import DeliveryWatch.Database.Table
import DeliveryWatch.Text.Quoted

namespace DeliveryWatch.Database

/-! ### Names -/

/-- A configured name that is no plain identifier. -/
structure NameFault where
  /-- What the name was to name. -/
  what : String
  value : Option String
  deriving Repr, DecidableEq

/-- The account of the fault. -/
def NameFault.message (f : NameFault) : String :=
  "Invalid " ++ f.what ++ ": " ++ (f.value.map Text.quoted).getD "None"

def isNameStart (c : Char) : Bool :=
  ('a' ≤ c && c ≤ 'z') || ('A' ≤ c && c ≤ 'Z') || c == '_'

def isNamePart (c : Char) : Bool := isNameStart c || ('0' ≤ c && c ≤ '9')

/-- Whether characters make up a name: a first letter or underscore, then name characters, then at
most one line feed. -/
def isName : List Char → Bool
  | [] => false
  | c :: r => isNameStart c && (r.dropWhile isNamePart == [] || r.dropWhile isNamePart == ['\n'])

/-- The configured name, if it is one. -/
def checkName (what : String) (value : Option String) : Except NameFault String :=
  match value with
  | some s => if isName s.toList then .ok s else .error ⟨what, value⟩
  | none => .error ⟨what, value⟩

/-- Words that a statement writes in quotes when they are names. -/
def quotedWords : List String :=
  ["add", "after", "all", "alter", "analyze", "and", "as", "asc", "attach", "autoincrement",
   "before", "begin", "between", "by", "cascade", "case", "cast", "check", "collate", "column",
   "commit", "conflict", "constraint", "create", "cross", "current_date", "current_time",
   "current_timestamp", "database", "default", "deferrable", "deferred", "delete", "desc",
   "detach", "distinct", "drop", "each", "else", "end", "escape", "except", "exclusive", "exists",
   "explain", "false", "fail", "for", "foreign", "from", "full", "glob", "group", "having", "if",
   "ignore", "immediate", "in", "index", "indexed", "initially", "inner", "insert", "instead",
   "intersect", "into", "is", "isnull", "join", "key", "left", "like", "limit", "match", "natural",
   "not", "notnull", "null", "of", "offset", "on", "or", "order", "outer", "plan", "pragma",
   "primary", "query", "raise", "references", "reindex", "rename", "replace", "restrict", "right",
   "rollback", "row", "select", "set", "table", "temp", "temporary", "then", "to", "transaction",
   "trigger", "true", "union", "unique", "update", "using", "vacuum", "values", "view", "virtual",
   "when", "where"]

/-- Keywords that cannot be names unless they are quoted. -/
def keywords : List String :=
  ["add", "all", "alter", "and", "as", "autoincrement", "between", "case", "check", "collate",
   "commit", "constraint", "create", "default", "deferrable", "delete", "distinct", "drop", "else",
   "escape", "except", "exists", "foreign", "from", "group", "having", "in", "index", "insert",
   "intersect", "into", "is", "isnull", "join", "limit", "not", "nothing", "notnull", "null", "on",
   "or", "order", "primary", "references", "returning", "select", "set", "table", "then", "to",
   "transaction", "union", "unique", "update", "using", "values", "when", "where"]

/-- Whether a statement writes the name in quotes. -/
def isQuoted (name : String) : Bool :=
  quotedWords.contains name || Text.lowerAscii name.toList != name.toList ||
    !isName name.toList

/-- The name that a statement made for `name` refers to. -/
def statementName (name : String) : Except Fault String :=
  if isQuoted name then .ok name
  else
    let bare := String.ofList (Text.dropEndWhile (· == '\n') name.toList)
    if keywords.contains bare then .error .operational else .ok bare

/-! ### Declarations -/

/-- A word in upper case. -/
def upperWord (w : List Char) : String := String.ofList (w.map Char.toUpper)

/-- Words that a rule begins with. -/
def ruleWords : List String := ["PRIMARY", "NOT", "NULL", "UNIQUE", "DEFAULT"]

/-- A value as a statement writes it. -/
def literal? (w : List Char) : Option Value :=
  match w with
  | '\x27' :: r =>
    if r.getLast? = some '\x27' then some (.text (String.ofList r.dropLast)) else none
  | _ =>
    match upperWord w with
    | "NULL" => some .null
    | "TRUE" => some (.int 1)
    | "FALSE" => some (.int 0)
    | _ => numberOfText? (String.ofList w)

/-- Add the rules that words state to a column. -/
def Column.addRules? (c : Column) : List (List Char) → Option Column
  | [] => some c
  | [a] =>
    match upperWord a with
    | "NULL" => some c
    | "UNIQUE" => some { c with isUnique := true }
    | _ => none
  | a :: b :: rest =>
    match upperWord a with
    | "NULL" => addRules? c (b :: rest)
    | "UNIQUE" => addRules? { c with isUnique := true } (b :: rest)
    | "NOT" => if upperWord b = "NULL" then addRules? { c with nullable := false } rest else none
    | "PRIMARY" => if upperWord b = "KEY" then addRules? { c with isKey := true } rest else none
    | "DEFAULT" => (literal? b).bind fun v => addRules? { c with default := v } rest
    | _ => none

/-- The column that a name and a declaration make. -/
def Column.declared? (name declaration : String) : Option Column :=
  let ws := Text.words declaration.toList
  let isType (w : List Char) : Bool := !ruleWords.contains (upperWord w)
  let type := String.intercalate " " ((ws.takeWhile isType).map String.ofList)
  addRules? { name := name, type := type } (ws.dropWhile isType)

end DeliveryWatch.Database
