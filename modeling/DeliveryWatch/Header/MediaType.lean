/-
Media types: the Content-Type of a message or of one of its parts.

* `mediaTypeText s` — the value as it is written again: the type, and each parameter in quotes;
* `essence` — the type itself, `text/plain` for a value that names none;
* `boundary?` — the boundary that parts a multipart message.
-/
import DeliveryWatch.Header.Parameter
import DeliveryWatch.Text.Case

namespace DeliveryWatch.Header

open DeliveryWatch.Header.Symbol

/-- Text that is no part of a media type, as it is written again, up to a semicolon; at most `n`
parts. -/
def strayText : Nat → Reading Symbols
  | 0 => pure []
  | n + 1 => do
    match ← get with
    | [] => return []
    | x :: _ =>
      if x.is ';' then return []
      else if endsPhrase x then
        Reading.skip
        return x :: (← strayText n)
      else
        let ps ← phrase
        let source := ps.flatMap fun
          | .word w => w.source
          | .point => [char '.']
          | .gap g => g
        return source ++ (← strayText n)

/-- Parameters as they are written again. -/
def parameterList (ps : List Parameter) : Except Breakdown Symbols := do
  let texts ← parameterTexts ps
  let one : Symbols × Symbols → Symbols := fun (name, v) =>
    if v.isEmpty then name else name ++ char '=' :: quoted v
  match texts with
  | [] => return []
  | t :: rest => return char ' ' :: one t ++ rest.flatMap fun u => symbols "; " ++ one u

/-- A semicolon and the parameters behind it, or nothing at the end of the value. -/
def parameterPart : Reading (Symbols × List Parameter) := do
  let stray ← strayText ((← get).length + 1)
  if ← Reading.nextIs (·.is ';') then
    Reading.skip
    let ps ← parametersFrom ((← get).length + 1)
    return (stray ++ [char ';'], ps)
  else return (stray, [])

/-- A token, if there is one. -/
def token? : Reading (Option Word) := Reading.orElse (some <$> spacedRun endsToken) (pure none)

/-- A media type: what stands before the parameters as it is written again, and the parameters. -/
def mediaType : Reading (Symbols × List Parameter) := do
  let behind (s : Symbols) : Reading (Symbols × List Parameter) := do
    let (stray, ps) ← parameterPart
    return (s ++ stray, ps)
  match ← token? with
  | none => behind []
  | some main =>
    if !(← Reading.nextIs (·.is '/')) then behind main.source
    else
      Reading.skip
      match ← token? with
      | none => behind (main.source ++ [char '/'])
      | some sub => behind (main.source ++ char '/' :: sub.source)

/-- The value of a Content-Type field as it is written again. -/
def mediaTypeText (s : Symbols) : Except Breakdown String :=
  match mediaType s with
  | .ok ((front, ps), _) => do return toText (front ++ (← parameterList ps))
  | .error (.breakdown b) => .error b
  | .error .mismatch => .ok ""

/-! ### The parts of the text -/

/-- The type itself: what stands before the parameters. A type has one slash. -/
def essence (text : String) : String :=
  let front := Text.lower (Text.strip (text.toList.takeWhile (· != ';')))
  if front.count '/' = 1 then String.ofList front else "text/plain"

/-- The main half of a type. -/
def mainType (essence : String) : String := String.ofList (essence.toList.takeWhile (· != '/'))

/-- Replace every occurrence of a pair of characters by one, from left to right. -/
def replacePair (a b c : Char) : List Char → List Char
  | [] => []
  | [x] => [x]
  | x :: y :: r => if x = a ∧ y = b then c :: replacePair a b c r else x :: replacePair a b c (y :: r)

/-- Take off quotes or angle brackets around a text. -/
def unwrap (s : List Char) : List Char :=
  let inner := (s.drop 1).dropLast
  if s.length ≤ 1 then s
  else if s.head? = some '"' ∧ s.getLast? = some '"' then
    replacePair '\\' '"' '"' (replacePair '\\' '\\' '\\' inner)
  else if s.head? = some '<' ∧ s.getLast? = some '>' then inner
  else s

/-- The parts of a written media type between semicolons; one in quotes parts nothing. `quoteOpen`
tells whether a quote is open. -/
def semicolonParts (quoteOpen : Bool) : List Char → List (List Char)
  | [] => [[]]
  | '\\' :: '"' :: r => addFront ['\\', '"'] (semicolonParts quoteOpen r)
  | c :: r =>
    if c = ';' && !quoteOpen then [] :: semicolonParts false r
    else addFront [c] (semicolonParts (if c = '"' then !quoteOpen else quoteOpen) r)
where
  /-- Put characters in front of the first part. -/
  addFront (cs : List Char) : List (List Char) → List (List Char)
    | [] => [cs]
    | p :: ps => (cs ++ p) :: ps

/-- The value of the first parameter of a name in a written media type. -/
def writtenParameter? (name : String) (text : String) : Option (List Char) :=
  (semicolonParts false text.toList).findSome? fun part =>
    let key := Text.lower (Text.strip (part.takeWhile (· != '=')))
    if key = name.toList then some (Text.strip ((part.dropWhile (· != '=')).drop 1)) else none

/-- The boundary of a written media type, with the wrappings taken off. -/
def boundary? (text : String) : Option (List Char) :=
  (writtenParameter? "boundary" text).map fun v =>
    Text.dropEndWhile Text.isBlank (unwrap (unwrap v))

end DeliveryWatch.Header
