/-
Header values without structure, such as the subject, and message ids, which may turn out to be such.

* `unstructured s` — the value with its encoded words decoded. White space between two encoded words
  falls away, all other text stays as it is;
* `messageIdText s` — a left part and a right part in angle brackets, with an at sign between them, as
  they would be written again, without what stands behind them; a value that is no id is read as text
  without structure.
-/
import DeliveryWatch.Header.AddrSpec
import DeliveryWatch.Header.EncodedWord

namespace DeliveryWatch.Header

open DeliveryWatch.Header.Symbol

/-! ### Text -/

/-- What the value read so far ends with, as far as white space before a word is concerned. -/
inductive Ending
  /-- Nothing or text. -/
  | text
  /-- An encoded word. -/
  | word
  /-- White space behind an encoded word, which may still fall away. -/
  | spaceAfterWord (space : Symbols)
  deriving Repr

/-- Whether an encoded word stands somewhere in the text, whatever its parts mean. -/
def holdsWord : Symbols → Bool
  | [] => false
  | x :: r =>
    let here := match wordStart.isPrefixOf? (x :: r) with
      | some body =>
        match body.dropWhile (!·.is '?') with
        | _ :: e :: q :: s =>
          (e.isIn fun c => "qQbB".toList.contains c) && q.is '?' && Text.holds wordEnd s
        | _ => false
      | none => false
    here || holdsWord r

/-- The visible text at the front, which is not empty. It ends before white space, and before an
encoded word in its middle unless a senseless word stands at its front. -/
def textRun (sensible : Bool) (s : Symbols) : Symbols × Symbols :=
  let run := s.takeWhile (!isSpaceOrTab ·)
  if sensible && holdsWord run then
    match Text.cutFirst? wordStart s with
    | some (before, _) => (before, s.drop before.length)
    | none => (run, s.drop run.length)
  else (run, s.drop run.length)

/-- White space that still has to be written. -/
def Ending.pending : Ending → Symbols
  | spaceAfterWord space => space
  | _ => []

/-- Decode a value, of at most `n` parts. -/
def unstructuredFrom (ending : Ending) : Nat → Symbols → Symbols
  | 0, _ => ending.pending
  | _ + 1, [] => ending.pending
  | n + 1, x :: r =>
    let s := x :: r
    if isSpaceOrTab x then
      let space := s.takeWhile isBlank
      let rest := s.dropWhile isBlank
      match ending with
      | .word => unstructuredFrom (.spaceAfterWord space) n rest
      | _ => ending.pending ++ space ++ unstructuredFrom .text n rest
    else
      match readEncodedWord s with
      | .word pieces rest => pieces.flatMap Piece.text ++ unstructuredFrom .word n rest
      | found =>
        let sensible := match found with
          | .senseless => false
          | _ => true
        let (run, rest) := textRun sensible s
        ending.pending ++ run ++ unstructuredFrom .text n rest

/-- The value with its encoded words decoded. -/
def unstructured (s : Symbols) : Symbols := unstructuredFrom .text (2 * s.length + 1) s

/-! ### Message ids -/

/-- Text in square brackets, without white space. -/
def bracketed : Reading Symbols := do
  if !(← Reading.nextIs (·.is '[')) then Reading.mismatch
  Reading.skip
  let text ← literalText
  if !(← Reading.nextIs (·.is ']')) then Reading.mismatch
  Reading.skip
  return char '[' :: text ++ [char ']']

/-- What stands before the at sign. -/
def idLeft : Reading Symbols :=
  Reading.orElse (Core.source <$> dotAtomText) (do
    let ps ← looseLocalPart
    return ps.flatMap LocalPiece.source)

/-- What stands behind the at sign. -/
def idRight : Reading Symbols :=
  Reading.orElse (Core.source <$> dotAtomText) (Reading.orElse bracketed (do
    let d ← domain
    if d.isBroken then Reading.breakdown (.noAttribute "InvalidHeaderDefect" "all_defects")
    return d.source))

/-- A message id; a missing closing bracket is added. -/
def messageId : Reading Symbols := do
  let lead ← gap
  if !(← Reading.nextIs (·.is '<')) then Reading.mismatch
  Reading.skip
  let left ← idLeft
  let start := lead ++ char '<' :: left
  if !(← Reading.nextIs (·.is '@')) then
    if ← Reading.nextIs (·.is '>') then return start ++ [char '>']
    else return start
  Reading.skip
  let right ← idRight
  if ← Reading.nextIs (·.is '>') then Reading.skip
  let trail ← gap
  return start ++ char '@' :: right ++ char '>' :: trail

/-- The value of a Message-ID field. -/
def messageIdText (s : Symbols) : Except Breakdown Symbols :=
  match messageId s with
  | .ok (text, _) => .ok text
  | .error (.breakdown b) => .error b
  | .error .mismatch => .ok (unstructured s)

end DeliveryWatch.Header
