/-
Splitting a message into its header and its body, each as raw text.

* `headerBlock raw` — the text before the first two line ends in a row;
* `bodyText raw` — what follows the header section, or the reason why the section has no clear end;
* `splitMessage raw` — both parts; on failure the fault comes with the header alone.

The two parts are found independently: the header block keeps its folding and order, the body is
what the field reader leaves.
-/
import DeliveryWatch.Message.Section

namespace DeliveryWatch.Message

/-- The raw header and body of a message. -/
structure Parts where
  header : String := ""
  body : String := ""
  deriving Repr, DecidableEq

/-- Why a message has no body of its own. -/
inductive SplitFault
  | noBlankLine
  | malformed (defect : Defect)
  deriving Repr, DecidableEq

/-- The account of the fault. -/
def SplitFault.message : SplitFault → String
  | noBlankLine => "Message has no blank line after the header block"
  | malformed d => "Malformed message header: " ++ d.name

/-- The rest of the text after a line feed or a carriage return and a line feed. -/
def afterLineEnd? : List Char → Option (List Char)
  | '\n' :: r => some r
  | '\r' :: '\n' :: r => some r
  | _ => none

/-- Whether the text starts with two line ends in a row. -/
def startsDoubleEnd (s : List Char) : Bool := ((afterLineEnd? s).bind afterLineEnd?).isSome

/-- The shortest non-empty start of the text that two line ends follow. -/
def headerBlock? : List Char → Option (List Char)
  | [] => none
  | c :: r => if startsDoubleEnd r then some [c] else (headerBlock? r).map (c :: ·)

/-- The header block, empty if there is none. -/
def headerBlock (raw : String) : String := String.ofList ((headerBlock? raw.toList).getD [])

/-- Whether some line feed of the text is followed by another line end. -/
def holdsDoubleEnd : List Char → Bool
  | [] => false
  | '\n' :: r => (afterLineEnd? r).isSome || holdsDoubleEnd r
  | _ :: r => holdsDoubleEnd r

/-- Whether the text has an empty line, at its start or after a line feed. -/
def hasBlankLine (s : List Char) : Bool := (afterLineEnd? s).isSome || holdsDoubleEnd s

/-- The body of a message. -/
def bodyText (raw : String) : Except SplitFault String :=
  if hasBlankLine raw.toList then
    let s := readSection raw.toList
    match s.defects with
    | d :: _ => .error (.malformed d)
    | [] => .ok (String.ofList s.body.flatten)
  else .error .noBlankLine

/-- Header and body of a message. The fault comes with the parts that were found. -/
def splitMessage (raw : String) : Except (SplitFault × Parts) Parts :=
  match bodyText raw with
  | .ok body => .ok ⟨headerBlock raw, body⟩
  | .error fault => .error (fault, ⟨headerBlock raw, ""⟩)

end DeliveryWatch.Message
