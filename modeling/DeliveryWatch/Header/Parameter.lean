/-
Parameters of a media type: `name=value`, the value plain, in quotes, in several sections, or with a
character set and percent signs.

* `parametersFrom` reads the parameters of a value, one after another; what is no parameter is passed
  over;
* `parameterTexts` puts the sections of each parameter together.
-/
import DeliveryWatch.Header.Mailbox

namespace DeliveryWatch.Header

open DeliveryWatch.Header.Symbol

/-- A parameter or a section of one. -/
structure Parameter where
  name : Symbols
  position : Option Nat := none
  isExtended : Bool := false
  /-- The character set of a value with percent signs. -/
  charset : Symbols := symbols "us-ascii"
  /-- The value; `none` for one that is there but has no parts at all. -/
  value : Option Symbols := some []
  deriving Repr, DecidableEq

/-- The number of the section; a parameter without sections has number 0. -/
def Parameter.number (p : Parameter) : Nat := p.position.getD 0

/-! ### Reading -/

/-- What ends a token: a media type or one of its halves. -/
def endsToken (x : Symbol) : Bool := isOneOf "()<>@,:;\\\"[]/?=" x || isSpaceOrTab x

/-- What ends the name of a parameter. -/
def endsName (x : Symbol) : Bool := endsToken x || isOneOf "*'%" x

/-- What ends a value without quotes: a percent sign does not. -/
def endsValue (x : Symbol) : Bool := endsToken x || isOneOf "*'" x

/-- A run of symbols up to an end; it may not be empty. -/
def runTo (isEnd : Symbol → Bool) : Reading Symbols := do
  let s ← get
  let run := s.takeWhile (!isEnd ·)
  if run.isEmpty then Reading.mismatch
  set (s.drop run.length)
  return run

/-- A run of symbols with the gaps around it. -/
def spacedRun (isEnd : Symbol → Bool) : Reading Word := do
  let lead ← gap
  let run ← runTo isEnd
  let trail ← gap
  return ⟨lead, .plain run, trail⟩

/-- The number that a row of digits writes. -/
def sectionNumber (ds : Symbols) : Reading Nat :=
  let cs := plainChars ds
  match cs.mapM Text.digit? with
  | some values =>
    if Text.maxDigits < cs.length then Reading.breakdown (.longNumber cs.length)
    else pure (Text.ofDigits values)
  | none => Reading.breakdown (.badNumber (String.ofList cs))

/-- A star and the number of a section, if they are there. -/
def sectionMark : Reading (Option Nat) := do
  match ← get with
  | star :: x :: r =>
    if star.is '*' && x.isIn Text.showsDigit then
      let ds := (x :: r).takeWhile (·.isIn Text.showsDigit)
      set ((x :: r).drop ds.length)
      return some (← sectionNumber ds)
    else return none
  | _ => return none

/-- A value: a quoted string, or a run of symbols. -/
def parameterValue : Reading Word := do
  if ← Reading.atEnd then Reading.mismatch
  let lead ← gap
  if ← Reading.atEnd then Reading.mismatch
  let w ← if ← Reading.nextIs (·.is '"') then quotedString else spacedRun endsValue
  return { w with lead := lead }

/-- The value of a quoted string that holds a character set and a value with percent signs; at most
`n` parts. -/
def quotedExtended : Nat → Symbols → Symbols
  | 0, _ => []
  | _ + 1, [] => []
  | n + 1, x :: r =>
    if isSpaceOrTab x then char ' ' :: quotedExtended n ((x :: r).dropWhile isBlank)
    else if x.is '"' then x :: quotedExtended n r
    else
      let (run, rest) := plainRun (·.is '"') false (x :: r)
      run ++ quotedExtended n rest

/-- Whether the content of a quoted string can be read as an extended value after all: it starts with
the name of a character set, or it is a further section without marks. -/
def holdsExtended (number : Nat) (content : Symbols) : Reading Bool :=
  if number = 0 then
    match content with
    | x :: _ =>
      if x.is '\x27' then pure true
      else
        let run := content.takeWhile (!endsName ·)
        if run.isEmpty then Reading.mismatch
        else pure ((content.drop run.length).head?.any (·.is '\x27'))
    | [] => Reading.mismatch
  else pure (!content.isEmpty && !content.any endsValue)

/-- The language of an extended value and the quotes around it. -/
def languageMark : Reading Unit := do
  if !(← Reading.nextIs (·.is '\x27')) then Reading.mismatch
  Reading.skip
  if ← Reading.nextIs (!·.is '\x27') then
    let _ ← runTo endsName
    if !(← Reading.nextIs (·.is '\x27')) then Reading.mismatch
  Reading.skip

/-- The value of a parameter behind its equals sign. `behind` is what follows the quoted string, if
the value is read from the content of one. -/
def assignedValue (p : Parameter) (behind : Option Symbols) : Reading Parameter := do
  let leave : Reading Unit := match behind with
    | some rest => set rest
    | none => pure ()
  let first ← if ← Reading.nextIs (·.is '\x27') then pure none else some <$> parameterValue
  let p := { p with value := first.map (·.core.value) }
  let marked ← Reading.nextIs (·.is '\x27')
  if !marked && (!p.isExtended || 0 < p.number) then
    leave
    return p
  let isBare ← Reading.atEnd
  if isBare && behind.isNone then return p
  let p := if isBare then p else { p with charset := (first.map Word.value).getD p.charset }
  if !isBare then languageMark
  match behind with
  | some rest =>
    let s ← get
    set rest
    return { p with value := if s.isEmpty then none else some (quotedExtended s.length s) }
  | none =>
    let w ← parameterValue
    return { p with value := some w.core.value }

/-- A parameter: a name, a section number, a star for an extended value, and a value. -/
def parameter : Reading Parameter := do
  let name ← spacedRun endsName
  let p : Parameter := { name := Text.stripWhile isBlank name.value }
  if (← Reading.atEnd) || (← Reading.nextIs (·.is ';')) then return p
  let p ←
    if ← Reading.nextIs (·.is '*') then do
      let n ← sectionMark
      if ← Reading.atEnd then Reading.mismatch
      if ← Reading.nextIs (·.is '*') then
        Reading.skip
        pure { p with position := n, isExtended := true }
      else pure { p with position := n }
    else pure p
  if !(← Reading.next).is '=' then Reading.mismatch
  Reading.skip
  let _ ← gap
  if p.isExtended && (← Reading.nextIs (·.is '"')) then
    let s ← get
    let w ← quotedString
    let behind ← get
    if ← holdsExtended p.number w.core.value then
      set w.core.value
      assignedValue p (some behind)
    else
      set s
      assignedValue p none
  else assignedValue p none

/-- The parameters of a value, at most `n`. -/
def parametersFrom : Nat → Reading (List Parameter)
  | 0 => pure []
  | n + 1 => do
    if ← Reading.atEnd then return []
    let p? ← Reading.orElse (some <$> parameter) (do
      let _ ← gap
      return none)
    passOverTo (·.is ';')
    Reading.skip
    return p?.toList ++ (← parametersFrom n)

/-! ### Values -/

/-- Undo percent signs: a percent sign with two hexadecimal digits is a byte. -/
def unpercent : List UInt8 → List UInt8
  | [] => []
  | 0x25 :: a :: b :: r =>
    match Text.hexDigit? (Char.ofNat a.toNat), Text.hexDigit? (Char.ofNat b.toNat) with
    | some x, some y => UInt8.ofNat (x * 16 + y) :: unpercent r
    | _, _ => 0x25 :: unpercent (a :: b :: r)
  | b :: r => b :: unpercent r

/-- The text of an extended value in its character set. -/
def extendedText (charset value : Symbols) : Symbols :=
  let bs := unpercent (value.flatMap bytes)
  match charset.mapM char? with
  | some cs => (Charset.decode? cs bs).getD (bs.map byte)
  | none => (Charset.decodeWith Charset.ascii bs).getD []

/-- The parts of one parameter in order of their numbers. Of two without sections the first counts. -/
def orderedSections (ps : List Parameter) : List Parameter :=
  let sorted := ps.mergeSort fun p q => p.number ≤ q.number
  match sorted with
  | p :: q :: _ => if !p.isExtended && q.number = 0 then [p] else sorted
  | _ => sorted

/-- The values of the sections in a row; a plain section whose number is not the next is left out. -/
def joinSections (charset : Symbols) (i : Nat) : List Parameter → Except Breakdown Symbols
  | [] => .ok []
  | p :: rest =>
    if p.number ≠ i ∧ !p.isExtended then joinSections charset i rest
    else match p.value with
      | none => .error .noPart
      | some v =>
        (joinSections charset (i + 1) rest).map fun more =>
          (if p.isExtended then extendedText charset v else v) ++ more

/-- The text of the parameter whose sections these are. -/
def parameterText (ps : List Parameter) : Except Breakdown Symbols :=
  match orderedSections ps with
  | [] => .ok []
  | p :: rest => joinSections p.charset 0 (p :: rest)

/-- Names and texts of the parameters, in the order in which their names come first. -/
def parameterTexts (ps : List Parameter) : Except Breakdown (List (Symbols × Symbols)) :=
  ((ps.map Parameter.name).eraseDups).mapM fun name => do
    return (name, ← parameterText (ps.filter fun p => p.name == name))

end DeliveryWatch.Header
