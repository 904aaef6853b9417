/-
The words of structured header values: comments, atoms, quoted strings, and phrases of them.

A part of a value has two readings: its *source*, as it would be written again, and its *value*, with
comments and runs of white space as one space and quoted strings without their quotes.

* `Reading α` — a reader takes a part off the front of a value, finds that it is not there
  (`mismatch`), or comes upon a value that it has no rule for (a `Breakdown`);
* `gap`, `word`, `phrase` — the parts;
* `phraseText` — the value of a phrase without gaps at its ends.

Comments nest to any depth here. A reader with a bounded stack gives up at about 500 comments inside
each other, and a header that it gave up on counts as unreadable.
-/
import DeliveryWatch.Header.EncodedWord
import DeliveryWatch.Text.Quoted

namespace DeliveryWatch.Header

open DeliveryWatch.Header.Symbol

/-- A header value that no rule covers. -/
inductive Breakdown
  /-- The value ends where one more symbol is needed. -/
  | pastEnd
  /-- A list of parts is empty where one is needed. -/
  | noPart
  /-- A part of the kind `owner` is asked for something that only other kinds have. -/
  | noAttribute (owner wanted : String)
  /-- A point is to take up a comment in front of it. -/
  | fixedPart
  /-- An address literal is empty. -/
  | emptyLiteral
  /-- An address would hold a line end. -/
  | lineEnd
  /-- A section number has signs that show digits but write no number. -/
  | badNumber (digits : String)
  /-- A section number has too many digits. -/
  | longNumber (length : Nat)
  deriving Repr, DecidableEq

/-- The account of the breakdown. -/
def Breakdown.message : Breakdown → String
  | pastEnd => "string index out of range"
  | noPart => "list index out of range"
  | noAttribute owner wanted =>
    "'" ++ owner ++ "' object has no attribute '" ++ wanted ++ "'"
  | fixedPart => "'ValueTerminal' object does not support item assignment"
  | emptyLiteral => "cannot access local variable 'pos' where it is not associated with a value"
  | lineEnd => "invalid arguments; address parts cannot contain CR or LF"
  | badNumber digits => "invalid literal for int() with base 10: " ++ Text.quoted digits
  | longNumber length =>
    "Exceeds the limit (4300 digits) for integer string conversion: value has " ++
      Text.decimal length ++ " digits; use sys.set_int_max_str_digits() to increase the limit"

/-- Why a reader stops. -/
inductive Stop
  /-- The part is not there. -/
  | mismatch
  | breakdown (b : Breakdown)
  deriving Repr, DecidableEq

/-- Readers of parts of a value. -/
abbrev Reading (α : Type) := StateT Symbols (Except Stop) α

namespace Reading

/-- The part is not there. -/
def mismatch {α : Type} : Reading α := throw .mismatch

/-- The value has no rule. -/
def breakdown {α : Type} (b : Breakdown) : Reading α := throw (.breakdown b)

/-- Read by the first reader, or from the same place by the second if the first finds no part. -/
def orElse {α : Type} (x y : Reading α) : Reading α := fun s =>
  match x s with
  | .error .mismatch => y s
  | r => r

/-- The next symbol, which has to be there. -/
def next : Reading Symbol := do
  match ← get with
  | x :: _ => pure x
  | [] => breakdown .pastEnd

/-- Whether the next symbol, if there is one, is in the class. -/
def nextIs (p : Symbol → Bool) : Reading Bool := do return (← get).head?.any p

/-- Drop one symbol. -/
def skip : Reading Unit := modify (·.drop 1)

/-- Whether the value is read to its end. -/
def atEnd : Reading Bool := do return (← get).isEmpty

end Reading

/-! ### Classes of symbols -/

def isOneOf (marks : String) (x : Symbol) : Bool := x.isIn marks.toList.contains

/-- Marks with a meaning of their own in addresses. -/
def specials : String := "()<>@,:;.\\\"[]"

def isSpecial (x : Symbol) : Bool := isOneOf specials x

/-- What ends an atom. -/
def endsAtom (x : Symbol) : Bool := isSpecial x || isSpaceOrTab x

/-- What ends a phrase: a point, a quote or a comment does not. -/
def endsPhrase (x : Symbol) : Bool := isOneOf ")<>@,:;\\[]" x

/-- What a gap begins with: white space or a comment. -/
def startsGap (x : Symbol) : Bool := isSpaceOrTab x || x.is '('

/-! ### Comments and gaps -/

/-- The text up to white space or one of the ends, with what a backslash escapes taken as it is.
`escaped` tells that the symbol before was a backslash. -/
def plainRun (isEnd : Symbol → Bool) (escaped : Bool) : Symbols → Symbols × Symbols
  | [] => ([], [])
  | x :: r =>
    if isSpaceOrTab x then ([], x :: r)
    else if x.is '\\' && !escaped then plainRun isEnd true r
    else if isEnd x && !escaped then ([], x :: r)
    else
      let (run, rest) := plainRun isEnd false r
      (x :: run, rest)

/-- The text of a comment behind its opening bracket as it is written again, and what follows the
comment; at most `n` parts. -/
def commentBody : Nat → Symbols → Symbols × Symbols
  | 0, s => ([], s)
  | _ + 1, [] => ([], [])
  | n + 1, x :: r =>
    if x.is ')' then ([], r)
    else
      let (part, rest) :=
        if isSpaceOrTab x then ((x :: r).takeWhile isBlank, (x :: r).dropWhile isBlank)
        else if x.is '(' then
          let (inner, rest) := commentBody n r
          (char '(' :: inner ++ [char ')'], rest)
        else
          let (run, rest) := plainRun (isOneOf "()") false (x :: r)
          (quoteWith ['\\', '(', ')'] run, rest)
      let (more, rest) := commentBody n rest
      (part ++ more, rest)

/-- White space and comments at the front as they are written again, and what follows; at most `n`
of them. -/
def gapFrom : Nat → Symbols → Symbols × Symbols
  | 0, s => ([], s)
  | _ + 1, [] => ([], [])
  | n + 1, x :: r =>
    if isSpaceOrTab x then
      let (more, rest) := gapFrom n ((x :: r).dropWhile isBlank)
      ((x :: r).takeWhile isBlank ++ more, rest)
    else if x.is '(' then
      let (body, rest) := commentBody r.length.succ r
      let (more, rest) := gapFrom n rest
      (char '(' :: body ++ char ')' :: more, rest)
    else ([], x :: r)

/-- White space and comments at the front of a value; there may be none. -/
def gap : Reading Symbols := fun s => .ok (gapFrom s.length s)

/-! ### Words -/

/-- What a word says: the pieces of an atom or encoded word, or a quoted string. A quoted string is
void if the value ends behind its opening quote. -/
inductive Core
  | pieces (ps : List Piece)
  | quote (content : Symbols) (isVoid : Bool)
  deriving Repr, DecidableEq

/-- White space within a word counts as one space. -/
def Piece.value (p : Piece) : Symbols := if p.isSpace then [char ' '] else p.text

namespace Core

/-- The core of a plain run of text. -/
def plain (s : Symbols) : Core := pieces [⟨s, false⟩]

def value : Core → Symbols
  | pieces ps => ps.flatMap Piece.value
  | quote content _ => content

def source : Core → Symbols
  | pieces ps => ps.flatMap Piece.text
  | quote content _ => quoted content

/-- Whether nothing at all was read for the core. -/
def isVoid : Core → Bool
  | pieces ps => ps.isEmpty
  | quote _ isVoid => isVoid

end Core

/-- A word with the gaps around it; an empty gap is none. -/
structure Word where
  lead : Symbols := []
  core : Core
  trail : Symbols := []
  deriving Repr, DecidableEq

/-- A gap counts as one space. -/
def gapValue (g : Symbols) : Symbols := if g.isEmpty then [] else [char ' ']

namespace Word

def value (w : Word) : Symbols := gapValue w.lead ++ w.core.value ++ gapValue w.trail

def source (w : Word) : Symbols := w.lead ++ w.core.source ++ w.trail

/-- The word without the gap in front. -/
def withoutLead (w : Word) : Word := { w with lead := [] }

/-- The word without the gap behind. -/
def withoutTrail (w : Word) : Word := { w with trail := [] }

end Word

/-- A run of text that is no mark. -/
def atomText : Reading Core := do
  let s ← get
  let run := s.takeWhile (!endsAtom ·)
  if run.isEmpty then Reading.mismatch
  set (s.drop run.length)
  return .plain run

/-- An encoded word, or what stands in its place if there is none. -/
def encodedOr (other : Reading Core) : Reading Core := do
  match readEncodedWord (← get) with
  | .word pieces rest =>
    set rest
    return .pieces pieces
  | _ => other

/-- An atom with the gaps around it; it may be an encoded word. -/
def atom : Reading Word := do
  let lead ← gap
  if ← Reading.nextIs endsAtom then Reading.mismatch
  let core ← encodedOr atomText
  let trail ← gap
  return ⟨lead, core, trail⟩

/-- The content of a quoted string behind its opening quote, and what follows the string; at most
`n` parts. White space between two encoded words falls away. -/
def quoteBody (afterWord : Bool) : Nat → Symbols → Symbols × Symbols
  | 0, s => ([], s)
  | _ + 1, [] => ([], [])
  | n + 1, x :: r =>
    let s := x :: r
    if x.is '"' then ([], r)
    else if isSpaceOrTab x then
      let rest := s.dropWhile isBlank
      let falls := afterWord && match readEncodedWord rest with
        | .word _ _ => true
        | _ => false
      let (more, rest) := quoteBody false n rest
      ((if falls then [] else s.takeWhile isBlank) ++ more, rest)
    else match readEncodedWord s with
      | .word pieces rest =>
        let (more, rest) := quoteBody true n rest
        (pieces.flatMap Piece.text ++ more, rest)
      | _ =>
        let (run, rest) := plainRun (·.is '"') false s
        let (more, rest) := quoteBody false n rest
        (run ++ more, rest)

/-- A quoted string and the gap behind it. -/
def quotedString : Reading Word := do
  if !(← Reading.nextIs (·.is '"')) then Reading.mismatch
  Reading.skip
  let s ← get
  let (content, rest) := quoteBody false (s.length + 1) s
  set rest
  let trail ← gap
  return { core := .quote content s.isEmpty, trail := trail }

/-- An atom or a quoted string with the gaps around it. -/
def word : Reading Word := do
  let _ ← Reading.next
  let lead ← gap
  if ← Reading.atEnd then Reading.mismatch
  if ← Reading.nextIs (·.is '"') then
    let w ← quotedString
    return { w with lead := lead }
  else if ← Reading.nextIs isSpecial then Reading.mismatch
  else
    let w ← atom
    return { w with lead := lead }

/-! ### Phrases -/

/-- A part of a phrase. -/
inductive PhrasePart
  | word (w : Word)
  | point
  /-- A gap that belongs to no word. -/
  | gap (g : Symbols)
  deriving Repr, DecidableEq

namespace PhrasePart

def value : PhrasePart → Symbols
  | word w => w.value
  | point => [char '.']
  | gap g => gapValue g

/-- The first part of a phrase without the gap in front of it. -/
def trimFront : List PhrasePart → Except Breakdown (List PhrasePart)
  | gap _ :: r => .ok r
  | word w :: r => .ok (word w.withoutLead :: r)
  | point :: _ => .error (.noAttribute "str" "token_type")
  | [] => .error .noPart

/-- The last part of a phrase without the gap behind it. -/
def trimBack : List PhrasePart → Except Breakdown (List PhrasePart)
  | [] => .error .noPart
  | [gap _] => .ok []
  | [word w] => .ok [word w.withoutTrail]
  | [point] => .error (.noAttribute "str" "token_type")
  | p :: r => (trimBack r).map (p :: ·)

end PhrasePart

/-- The value of a phrase without gaps at its ends. -/
def phraseText (parts : List PhrasePart) : Except Breakdown Symbols :=
  match parts with
  | [] => .ok []
  | _ => do
    let parts ← PhrasePart.trimFront parts
    let parts ← PhrasePart.trimBack parts
    return parts.flatMap PhrasePart.value

/-- The parts of a phrase up to a mark that ends it, at most `n`. -/
def phraseParts : Nat → Reading (List PhrasePart)
  | 0 => pure []
  | n + 1 => do
    if ← Reading.atEnd then return []
    if ← Reading.nextIs endsPhrase then return []
    let part ←
      if ← Reading.nextIs (·.is '.') then
        Reading.skip
        pure PhrasePart.point
      else
        Reading.orElse (PhrasePart.word <$> word) (do
          if ← Reading.nextIs startsGap then return PhrasePart.gap (← gap)
          else Reading.mismatch)
    return part :: (← phraseParts n)

/-- A phrase: words, points and gaps up to a mark that ends it. -/
def phrase : Reading (List PhrasePart) := do
  let first ← Reading.orElse ((fun w => [PhrasePart.word w]) <$> word) (pure [])
  let rest ← phraseParts ((← get).length + 1)
  return first ++ rest

end DeliveryWatch.Header
