/-
Files of assignments: `NAME=value` line by line.

* `bindings` — the assignments of a file. A name may follow `export` and stand in single quotes; a
  value is bare, or in single or double quotes and then may have escapes and span lines. A line that
  is no assignment is passed over up to its end;
* `values` — the values of the names, with `${NAME}` and `${NAME:-default}` in them
  replaced by values from further up or else from the environment.
-/
import DeliveryWatch.Text.Basic

namespace DeliveryWatch.Assignments

open Text

/-- White space within a line. -/
def isGap (c : Char) : Bool := isBlank c && !isLineEnd c

/-- Drop white space within the line. -/
def afterGap (s : List Char) : List Char := s.dropWhile isGap

/-! ### Values -/

/-- The text up to a closing quote, and what follows the quote. A quote behind a backslash does not
close, unless no other one does. -/
def closeQuote? (quote : Char) : List Char → Option (List Char × List Char)
  | [] => none
  | [c] => if c = quote then some ([], []) else none
  | '\\' :: c :: r =>
    if c = quote then
      match closeQuote? quote r with
      | some (text, rest) => some ('\\' :: c :: text, rest)
      | none => some (['\\'], r)
    else (closeQuote? quote (c :: r)).map fun (text, rest) => ('\\' :: text, rest)
  | c :: r =>
    if c = quote then some ([], r)
    else (closeQuote? quote r).map fun (text, rest) => (c :: text, rest)

/-- What a letter behind a backslash stands for between double quotes. -/
def escaped? : Char → Option Char
  | '\\' => some '\\'
  | '\x27' => some '\x27'
  | '"' => some '"'
  | 'a' => some '\x07'
  | 'b' => some '\x08'
  | 'f' => some '\x0c'
  | 'n' => some '\n'
  | 'r' => some '\r'
  | 't' => some '\t'
  | 'v' => some '\x0b'
  | _ => none

/-- What a letter behind a backslash stands for between single quotes. -/
def singleEscaped? (c : Char) : Option Char := if c = '\\' ∨ c = '\x27' then some c else none

/-- Replace escapes by what they stand for. -/
def unescape (meaning? : Char → Option Char) : List Char → List Char
  | '\\' :: c :: r =>
    match meaning? c with
    | some d => d :: unescape meaning? r
    | none => '\\' :: unescape meaning? (c :: r)
  | c :: r => c :: unescape meaning? r
  | [] => []

/-- A bare value up to a comment: white space and a sharp sign. -/
def beforeComment : List Char → List Char
  | [] => []
  | c :: r =>
    if isBlank c && (r.dropWhile isBlank).head? == some '#' then []
    else c :: beforeComment r

/-- A value and what follows it. -/
def value? : List Char → Option (List Char × List Char)
  | '\x27' :: r =>
    (closeQuote? '\x27' r).map fun (text, rest) => (unescape singleEscaped? text, rest)
  | '"' :: r => (closeQuote? '"' r).map fun (text, rest) => (unescape escaped? text, rest)
  | s =>
    let line := s.takeWhile (!isLineEnd ·)
    some (dropEndWhile isBlank (beforeComment line), s.dropWhile (!isLineEnd ·))

/-! ### Assignments -/

/-- Drop the word `export` and the white space behind it. -/
def afterExport (s : List Char) : List Char :=
  match "export".toList.isPrefixOf? s with
  | some r => if r.head?.any isGap then afterGap r else s
  | none => s

/-- A name and what follows it; a comment has none. The rest on failure is where the line goes
on. -/
def name? (s : List Char) : Except (List Char) (Option (List Char) × List Char) :=
  match s with
  | '#' :: _ => .ok (none, s)
  | '\x27' :: r =>
    let name := r.takeWhile (· != '\x27')
    match r.dropWhile (· != '\x27') with
    | _ :: rest => if name.isEmpty then .error s else .ok (some name, rest)
    | [] => .error s
  | _ =>
    let isPart (c : Char) : Bool := !isBlank c && c != '=' && c != '#'
    let name := s.takeWhile isPart
    if name.isEmpty then .error s else .ok (some name, s.dropWhile isPart)

/-- A line end, with white space and a comment in front of it. -/
def lineEnd? (s : List Char) : Except (List Char) (List Char) :=
  let s := match afterGap s with
    | '#' :: r => r.dropWhile (!isLineEnd ·)
    | _ => s
  match afterGap s with
  | [] => .ok []
  | '\r' :: '\n' :: r => .ok r
  | c :: r => if isLineEnd c then .ok r else .error s

/-- An assignment of a name, or of none for a comment; a name alone has no value. -/
abbrev Binding := Option (List Char) × Option (List Char)

/-- An assignment and what follows its line. -/
def binding? (s : List Char) : Except (List Char) (Binding × List Char) := do
  let (name, s) ← name? (afterExport s)
  let s := afterGap s
  match s with
  | '=' :: r =>
    let r := afterGap r
    match value? r with
    | none => .error r
    | some (value, rest) => return ((name, some value), ← lineEnd? rest)
  | _ => return ((name, none), ← lineEnd? s)

/-- Drop the rest of a line. -/
def nextLine (s : List Char) : List Char := (s.dropWhile (!isLineEnd ·)).drop 1

/-- The assignments of a file, at most `n`. -/
def bindingsFrom : Nat → List Char → List (List Char × Option (List Char))
  | 0, _ => []
  | n + 1, s =>
    match s.dropWhile isBlank with
    | [] => []
    | c :: r =>
      match binding? (c :: r) with
      | .ok ((some name, value), rest) => (name, value) :: bindingsFrom n rest
      | .ok ((none, _), rest) => bindingsFrom n rest
      | .error rest => bindingsFrom n (nextLine rest)

/-- The assignments of a file in order; a name alone has no value. -/
def bindings (file : String) : List (List Char × Option (List Char)) :=
  bindingsFrom (file.length + 1) (lineFeeds file.toList)

/-! ### References -/

/-- A reference at the front of a text: the name, the default, and what follows. -/
def reference? (s : List Char) : Option (List Char × List Char × List Char) :=
  match s with
  | '$' :: '\x7b' :: r =>
    let isPart (c : Char) : Bool := c != '\x7d' && c != ':'
    let name := r.takeWhile isPart
    match r.dropWhile isPart with
    | '\x7d' :: rest => some (name, [], rest)
    | ':' :: '-' :: t =>
      match t.dropWhile (· != '\x7d') with
      | _ :: rest => some (name, t.takeWhile (· != '\x7d'), rest)
      | [] => none
    | _ => none
  | _ => none

/-- Replace references, at most `n` symbols; `lookup?` tells the value of a name, which is nothing for
a name alone. -/
def expandFrom (lookup? : List Char → Option (List Char)) : Nat → List Char → List Char
  | 0, s => s
  | _ + 1, [] => []
  | n + 1, c :: r =>
    match reference? (c :: r) with
    | some (name, default, rest) => (lookup? name).getD default ++ expandFrom lookup? n rest
    | none => c :: expandFrom lookup? n r

/-- Replace the references in a value. -/
def expand (lookup? : List Char → Option (List Char)) (s : List Char) : List Char :=
  expandFrom lookup? s.length s

/-- Set a name, which keeps its place. -/
def put (name : List Char) (value : Option (List Char)) :
    List (List Char × Option (List Char)) → List (List Char × Option (List Char))
  | [] => [(name, value)]
  | (k, v) :: rest => if k = name then (k, value) :: rest else (k, v) :: put name value rest

/-- The values of names, given those found so far. -/
def resolve (env : List (List Char × List Char)) (found : List (List Char × Option (List Char))) :
    List (List Char × Option (List Char)) → List (List Char × Option (List Char))
  | [] => found
  | (name, value) :: rest =>
    let lookup? (n : List Char) : Option (List Char) :=
      match found.lookup n with
      | some v => some (v.getD [])
      | none => env.lookup n
    resolve env (put name (value.map (expand lookup?)) found) rest

/-- The values that a file gives to names, in an environment. -/
def values (env : List (String × String)) (file : String) : List (String × Option String) :=
  let env := env.map fun (k, v) => (k.toList, v.toList)
  (resolve env [] (bindings file)).map fun (k, v) => (String.ofList k, v.map String.ofList)

end DeliveryWatch.Assignments
