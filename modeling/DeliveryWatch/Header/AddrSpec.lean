/-
Addresses without a name: a local part, and a domain behind an at sign.

* `addrSpec` reads an address; the domain may be missing;
* `LocalPart.text` and `Domain.text` — the two parts without gaps and quotes.
-/
import DeliveryWatch.Header.Word

namespace DeliveryWatch.Header

open DeliveryWatch.Header.Symbol

/-! ### Dotted atoms -/

/-- Runs of text with points between them at the front, of at most `n` runs. -/
def dottedRuns : Nat → Symbols → Option (Symbols × Symbols)
  | 0, _ => none
  | n + 1, s =>
    let run := s.takeWhile (!endsAtom ·)
    if run.isEmpty then none
    else match s.drop run.length with
      | x :: r =>
        if x.is '.' then (dottedRuns n r).map fun (more, rest) => (run ++ x :: more, rest)
        else some (run, x :: r)
      | [] => some (run, [])

/-- Runs of text with points between them. -/
def dotAtomText : Reading Core := do
  let s ← get
  match dottedRuns (s.length + 1) s with
  | some (text, rest) =>
    set rest
    return .plain text
  | none => Reading.mismatch

/-- Runs of text with points between them, or an encoded word, and the gaps around. -/
def dotAtom : Reading Word := do
  let _ ← Reading.next
  let lead ← gap
  let core ← encodedOr dotAtomText
  let trail ← gap
  return ⟨lead, core, trail⟩

/-! ### Local parts -/

/-- A piece of a local part that is no dotted atom. -/
inductive LocalPiece
  | word (w : Word)
  | point
  /-- A mark that should not be there. -/
  | stray (x : Symbol)
  | gap (g : Symbols)
  deriving Repr, DecidableEq

/-- What stands before the at sign. -/
inductive LocalPart
  | simple (core : Core)
  | pieces (ps : List LocalPiece)
  deriving Repr, DecidableEq

namespace LocalPiece

def source : LocalPiece → Symbols
  | word w => w.source
  | point => [char '.']
  | stray x => [x]
  | gap g => g

/-- Whether a point is the next piece that is no gap; the end counts as a point. -/
def meetsPoint : List LocalPiece → Bool
  | [] => true
  | gap _ :: r => meetsPoint r
  | point :: _ => true
  | _ => false

/-- The text of the pieces: gaps between them fall away, and so do the gaps of a word beside a
point. `afterPoint` tells whether a point came last. -/
def text (afterPoint : Bool) : List LocalPiece → Symbols
  | [] => []
  | gap _ :: r => text afterPoint r
  | point :: r => char '.' :: text true r
  | stray x :: r => x :: text false r
  | word w :: r =>
    let w := if afterPoint then w.withoutLead else w
    let w := if meetsPoint r then w.withoutTrail else w
    w.value ++ text false r

end LocalPiece

/-- The local part without gaps and quotes. -/
def LocalPart.text : LocalPart → Except Breakdown Symbols
  | simple core => if core.isVoid then .error .noPart else .ok core.value
  | pieces ps => .ok (LocalPiece.text true ps)

/-- Pieces of a local part, at most `n`. -/
def localPieces : Nat → Reading (List LocalPiece)
  | 0 => pure []
  | n + 1 => do
    match ← get with
    | [] => return []
    | x :: _ =>
      if x.is '.' then
        Reading.skip
        return .point :: (← localPieces n)
      else if x.is '\\' then
        Reading.skip
        return .stray x :: (← localPieces n)
      else if endsPhrase x then return []
      else
        let piece ← Reading.orElse (LocalPiece.word <$> word) (do
          if startsGap x then return LocalPiece.gap (← gap) else Reading.mismatch)
        return piece :: (← localPieces n)

/-- Words and points in any order; there has to be something, and more than a gap. -/
def looseLocalPart : Reading (List LocalPiece) := do
  let ps ← localPieces ((← get).length + 1)
  match ps with
  | [] => Reading.breakdown .noPart
  | [.gap _] => Reading.breakdown .noPart
  | _ => return ps

/-- A local part. If more than a dotted atom stands before the at sign, all of it is read again as
words and points. -/
def localPart : Reading LocalPart := do
  let _ ← Reading.next
  let lead ← gap
  if ← Reading.atEnd then Reading.mismatch
  let first ← get
  let w? ← Reading.orElse (some <$> Reading.orElse dotAtom word)
    (if first.head?.any fun x => endsPhrase x && !x.is '\\' then Reading.mismatch else pure none)
  let rest ← get
  if rest.head?.any fun x => x.is '\\' || !endsPhrase x then
    set (lead ++ (w?.map Word.source).getD [] ++ rest)
    return .pieces (← looseLocalPart)
  else
    match w? with
    | some w => return .simple w.core
    | none => return .pieces [.gap lead]

/-! ### Domains -/

/-- What stands behind the at sign. A broken domain is a literal whose closing bracket is
missing. -/
structure Domain where
  value : Symbols
  source : Symbols
  isBroken : Bool := false
  deriving Repr, DecidableEq

/-- The domain without gaps. -/
def Domain.text (d : Domain) : Symbols := d.value.filter (!isBlank ·)

/-- White space at the front, which may be missing. -/
def whiteSpace : Reading Symbols := do
  let s ← get
  if s.head?.any isSpaceOrTab then
    set (s.dropWhile isBlank)
    return s.takeWhile isBlank
  else return []

/-- The text of a literal between its brackets; there has to be some. -/
def literalText : Reading Symbols := do
  match ← get with
  | [] => Reading.breakdown .emptyLiteral
  | x :: r =>
    if isSpaceOrTab x then Reading.breakdown .emptyLiteral
    else
      let (run, rest) := plainRun (isOneOf "[]") false (x :: r)
      set rest
      return run

/-- A domain in square brackets. -/
def domainLiteral : Reading Domain := do
  let lead ← gap
  if !(← Reading.nextIs (·.is '[')) then Reading.mismatch
  Reading.skip
  let broken : Domain := { value := [], source := [], isBroken := true }
  if ← Reading.atEnd then return broken
  let before ← whiteSpace
  let text ← literalText
  if ← Reading.atEnd then return broken
  let behind ← whiteSpace
  if ← Reading.atEnd then return broken
  if !(← Reading.nextIs (·.is ']')) then Reading.mismatch
  Reading.skip
  let trail ← gap
  return { value := char '[' :: text ++ [char ']']
           source := lead ++ char '[' :: before ++ text ++ behind ++ char ']' :: trail }

/-- Further atoms of a domain, each behind a point; at most `n`. -/
def furtherAtoms : Nat → Reading (List Word)
  | 0 => pure []
  | n + 1 => do
    if ← Reading.nextIs (·.is '.') then
      Reading.skip
      let w ← atom
      return w :: (← furtherAtoms n)
    else return []

/-- A domain: atoms with points between them, or a literal. -/
def domain : Reading Domain := do
  let _ ← Reading.next
  let lead ← gap
  if ← Reading.atEnd then Reading.mismatch
  if ← Reading.nextIs (·.is '[') then
    let d ← domainLiteral
    return { d with source := lead ++ d.source }
  let first ← Reading.orElse dotAtom atom
  if ← Reading.nextIs (·.is '@') then Reading.mismatch
  let more ← furtherAtoms ((← get).length + 1)
  let joined (f : Word → Symbols) : Symbols := f first ++ more.flatMap fun w => char '.' :: f w
  return { value := joined Word.value, source := lead ++ joined Word.source }

/-! ### Addresses -/

/-- A local part and the domain behind it, if there is one. -/
structure AddrSpec where
  localPart : LocalPart
  domain : Option Domain
  deriving Repr, DecidableEq

/-- An address without a name. -/
def addrSpec : Reading AddrSpec := do
  let l ← localPart
  if ← Reading.nextIs (·.is '@') then
    Reading.skip
    let d ← domain
    return ⟨l, some d⟩
  else return ⟨l, none⟩

/-- Whether the domain is a literal without its closing bracket. -/
def AddrSpec.isBroken (a : AddrSpec) : Bool := a.domain.any Domain.isBroken

end DeliveryWatch.Header
