/-
Mailboxes and groups: the addresses of From and To.

* `addressList` reads a whole value; text that is no address is passed over up to the next comma
  and leaves an empty address in its place;
* `Entry.text` — an address or a group as it is shown.
-/
import DeliveryWatch.Header.AddrSpec

namespace DeliveryWatch.Header

open DeliveryWatch.Header.Symbol

/-- A mailbox: a name, and an address. Both may be missing. -/
structure Mailbox where
  name : Option (List PhrasePart) := none
  spec : Option AddrSpec := none
  deriving Repr, DecidableEq

/-- An entry of an address list. -/
inductive Entry
  | mailbox (m : Mailbox)
  | group (name : List PhrasePart) (members : List Mailbox)
  /-- A group with text behind it that does not belong there. -/
  | spoiledGroup (name : List PhrasePart)
  deriving Repr, DecidableEq

/-! ### Reading -/

/-- Commas and gaps in front of a route, at most `n`. -/
def routeGaps : Nat → Reading Unit
  | 0 => pure ()
  | n + 1 => do
    if ← Reading.nextIs startsGap then
      let _ ← gap
      routeGaps n
    else if ← Reading.nextIs (·.is ',') then
      Reading.skip
      routeGaps n

/-- Further domains of a route, at most `n`. -/
def routeDomains : Nat → Reading Unit
  | 0 => pure ()
  | n + 1 => do
    if ← Reading.nextIs (·.is ',') then
      Reading.skip
      if !(← Reading.atEnd) then
        let _ ← gap
        if (← Reading.next).is '@' then
          Reading.skip
          let _ ← domain
        routeDomains n

/-- A route in front of an address: domains behind at signs, up to a colon. -/
def route : Reading Unit := do
  routeGaps ((← get).length + 1)
  if !(← Reading.nextIs (·.is '@')) then Reading.mismatch
  Reading.skip
  let _ ← domain
  routeDomains ((← get).length + 1)
  if !(← Reading.nextIs (·.is ':')) then Reading.mismatch
  Reading.skip

/-- An address in angle brackets; between them there may be nothing. -/
def angleAddr : Reading (Option AddrSpec) := do
  let _ ← gap
  if !(← Reading.nextIs (·.is '<')) then Reading.mismatch
  Reading.skip
  if (← Reading.next).is '>' then
    Reading.skip
    return none
  let spec ← Reading.orElse addrSpec (do route; addrSpec)
  if ← Reading.nextIs (·.is '>') then Reading.skip
  let _ ← gap
  return some spec

/-- A name and an address in angle brackets; the name may be missing. -/
def nameAddr : Reading Mailbox := do
  let x ← Reading.next
  let _ ← gap
  if ← Reading.atEnd then Reading.mismatch
  if ← Reading.nextIs (·.is '<') then
    return { spec := ← angleAddr }
  if ← Reading.nextIs endsPhrase then Reading.mismatch
  let name ← phrase
  if ← Reading.atEnd then Reading.mismatch
  if startsGap x && name.head? == some .point then Reading.breakdown .fixedPart
  return { name := some name, spec := ← angleAddr }

/-- A mailbox: with a name, or an address alone. -/
def mailbox : Reading Mailbox := do
  let m ← Reading.orElse nameAddr (do return { spec := some (← addrSpec) })
  if m.spec.any AddrSpec.isBroken then
    Reading.breakdown (.noAttribute "InvalidHeaderDefect" "all_defects")
  return m

/-- Pass over text that is no mailbox, up to one of the ends; at most `n` parts. -/
def passOver (isEnd : Symbol → Bool) : Nat → Reading Unit
  | 0 => pure ()
  | n + 1 => do
    if (← Reading.atEnd) || (← Reading.nextIs isEnd) then return
    if ← Reading.nextIs endsPhrase then Reading.skip
    else
      let _ ← phrase
    passOver isEnd n

/-- Pass over text that is no mailbox, up to one of the ends. -/
def passOverTo (isEnd : Symbol → Bool) : Reading Unit := do
  passOver isEnd ((← get).length + 1)

/-- An element of a list: by the reader, or nothing if there are only gaps up to one of the ends, or
text that is passed over and makes up the element `other`. -/
def element {α : Type} (isEnd : Symbol → Bool) (read : Reading α) (other : α) :
    Reading (Option α) :=
  Reading.orElse (some <$> read) (do
    if ← Reading.nextIs startsGap then
      let _ ← gap
      if (← Reading.atEnd) || (← Reading.nextIs isEnd) then return none
      passOverTo isEnd
      return some other
    else if ← Reading.nextIs (·.is ',') then return none
    else
      passOverTo isEnd
      return some other)

/-- What ends a mailbox within a group. -/
def endsMember (x : Symbol) : Bool := x.is ',' || x.is ';'

/-- The mailboxes of a group up to its semicolon, at most `n`. -/
def members : Nat → Reading (List Mailbox)
  | 0 => pure []
  | n + 1 => do
    if (← Reading.atEnd) || (← Reading.nextIs (·.is ';')) then return []
    let m? ← element endsMember mailbox {}
    passOverTo endsMember
    if ← Reading.nextIs (·.is ',') then Reading.skip
    return m?.toList ++ (← members n)

/-- A group: a name and a colon, mailboxes, a semicolon. -/
def group : Reading Entry := do
  let name ← phrase
  if !(← Reading.nextIs (·.is ':')) then Reading.mismatch
  Reading.skip
  if ← Reading.nextIs (·.is ';') then
    Reading.skip
    return .group name []
  let _ ← gap
  let ms ← members ((← get).length + 1)
  Reading.skip
  let _ ← gap
  return .group name ms

/-- What text behind an entry makes of it. -/
def Entry.spoil : Entry → Entry
  | mailbox m => mailbox m
  | group name _ => spoiledGroup name
  | spoiledGroup name => spoiledGroup name

/-- The entries of an address list, at most `n`. -/
def entries : Nat → Reading (List Entry)
  | 0 => pure []
  | n + 1 => do
    if ← Reading.atEnd then return []
    let e? ← element (·.is ',') (Reading.orElse group (Entry.mailbox <$> mailbox)) (.mailbox {})
    let isClean := (← Reading.atEnd) || (← Reading.nextIs (·.is ','))
    passOverTo (·.is ',')
    Reading.skip
    let e? := if isClean then e? else e?.map Entry.spoil
    return e?.toList ++ (← entries n)

/-- A whole address list. -/
def addressList : Reading (List Entry) := do entries ((← get).length + 1)

/-! ### Showing -/

/-- What local parts are quoted for. -/
def needsQuotes (x : Symbol) : Bool := endsAtom x && !x.is '.'

/-- An address of a local part and a domain; without both it is a pair of angle brackets. -/
def showAddr (localPart domain : Symbols) : Symbols :=
  let l := if localPart.any needsQuotes then quoted localPart else localPart
  if !domain.isEmpty then l ++ char '@' :: domain
  else if l.isEmpty then symbols "<>"
  else l

/-- A name, in quotes if it holds a special mark. -/
def showName (name : Symbols) : Symbols := if name.any isSpecial then quoted name else name

/-- A name and an address. -/
def showMailbox (name localPart domain : Symbols) : Symbols :=
  let addr := showAddr localPart domain
  if name.isEmpty then addr
  else
    let inner := if addr == symbols "<>" then [] else addr
    showName name ++ symbols " <" ++ inner ++ symbols ">"

/-- A mailbox as it is shown. None of its parts may hold a line end. -/
def Mailbox.text (m : Mailbox) : Except Breakdown Symbols := do
  let name ← match m.name with
    | some parts => phraseText parts
    | none => pure []
  let localPart ← match m.spec with
    | some spec => spec.localPart.text
    | none => pure []
  let domain := ((m.spec.bind AddrSpec.domain).map Domain.text).getD []
  if (name ++ localPart ++ domain).any (·.isIn Text.isLineEnd) then throw .lineEnd
  return showMailbox name localPart domain

/-- A list with commas and spaces between its items. -/
def commaList : List Symbols → Symbols
  | [] => []
  | [s] => s
  | s :: rest => s ++ symbols ", " ++ commaList rest

/-- An entry as it is shown. -/
def Entry.text : Entry → Except Breakdown Symbols
  | mailbox m => m.text
  | group name ms => do
    let name ← phraseText name
    let shown ← ms.mapM Mailbox.text
    let list := commaList shown
    let list := if list.isEmpty then [] else char ' ' :: list
    return showName name ++ char ':' :: list ++ [char ';']
  | spoiledGroup name => do
    let _ ← phraseText name
    throw (.noAttribute "Group" "local_part")

/-- The entries of an address list as they are shown. -/
def addressText (s : Symbols) : Except Breakdown Symbols :=
  match addressList s with
  | .ok (es, _) => commaList <$> es.mapM Entry.text
  | .error (.breakdown b) => .error b
  | .error .mismatch => .ok []

end DeliveryWatch.Header
