/-
Options of commands: how the arguments of a command are read.

* `tokens` — what each argument is: an option, perhaps with a value attached by an equals sign, or a
  plain text. An option may be cut short as long as only one has that beginning;
* `steps` — what the arguments say one after another, up to the first fault: options that are
  switched on, options with their values, and arguments that nothing is known of.
-/
import DeliveryWatch.Text.Basic
import DeliveryWatch.Text.Digit
import DeliveryWatch.Text.Quoted

namespace DeliveryWatch.Command

/-- An option: what it stands for, its names, and whether it takes a value. -/
structure Choice (κ : Type) where
  key : κ
  names : List String
  takesValue : Bool := true

/-- The names of an option in reports. -/
def Choice.shown {κ : Type} (c : Choice κ) : String := String.intercalate "/" c.names

/-- What is wrong with arguments. -/
inductive UsageFault
  | ambiguous (argument : String) (names : List String)
  | noValue (option : String)
  | unwantedValue (option value : String)
  | noNumber (option value : String)
  | missing (options : List String)
  | unrecognized (arguments : List String)
  deriving Repr, DecidableEq

/-- The account of the fault. -/
def UsageFault.message : UsageFault → String
  | ambiguous a names =>
    "ambiguous option: " ++ a ++ " could match " ++ String.intercalate ", " names
  | noValue o => "argument " ++ o ++ ": expected one argument"
  | unwantedValue o v => "argument " ++ o ++ ": ignored explicit argument " ++ Text.quoted v
  | noNumber o v => "argument " ++ o ++ ": invalid int value: " ++ Text.quoted v
  | missing os => "the following arguments are required: " ++ String.intercalate ", " os
  | unrecognized as => "unrecognized arguments: " ++ String.intercalate " " as

variable {κ : Type}

/-! ### What an argument is -/

/-- What an argument is. -/
inductive Token (κ : Type)
  | plain (text : String)
  /-- An option, with the value attached to it by an equals sign. -/
  | choice (c : Choice κ) (value : Option String)
  /-- An option of one letter with a text attached to it. -/
  | cluster (c : Choice κ) (text : String)
  /-- A text that looks like an option and is none. -/
  | unknown (text : String)

/-- The names of all options, each with its option. -/
def namesOf (choices : List (Choice κ)) : List (String × Choice κ) :=
  choices.flatMap fun c => c.names.map (·, c)

/-- Whether a text starts with another one. -/
def startsWith (text start : List Char) : Bool := start.isPrefixOf text

/-- A negative number, perhaps with a fraction; it may end in a line feed. -/
def isNegativeNumber (s : List Char) : Bool :=
  let isDigit (c : Char) : Bool := (Text.digit? c).isSome
  match s with
  | '-' :: r =>
    let r := if r.getLast? = some '\n' then r.dropLast else r
    match r.dropWhile isDigit with
    | [] => !r.isEmpty
    | '.' :: f => !f.isEmpty && f.all isDigit
    | _ => false
  | _ => false

/-- The text before and after the first equals sign. -/
def cutValue (s : List Char) : List Char × Option String :=
  match Text.cutFirst? ['='] s with
  | some (name, value) => (name, some (String.ofList value))
  | none => (s, none)

/-- The options that an argument may mean. An argument with one dash names an option of one letter,
with something attached, or begins the name of a longer one. -/
def candidates (choices : List (Choice κ)) (argument : List Char) :
    List (String × Choice κ × Option String) :=
  match argument with
  | '-' :: '-' :: _ =>
    let (start, value) := cutValue argument
    ((namesOf choices).filter fun (name, _) => startsWith name.toList start).map
      fun (name, c) => (name, c, value)
  | _ =>
    (namesOf choices).filterMap fun (name, c) =>
      if name.toList = argument.take 2 then some (name, c, some (String.ofList (argument.drop 2)))
      else if startsWith name.toList argument then some (name, c, none)
      else none

/-- An option that was called by a name, with what is attached to it. -/
def named (name : String) (c : Choice κ) : Option String → Token κ
  | none => .choice c none
  | some v => if name.length = 2 then .cluster c v else .choice c (some v)

/-- What an argument that starts with a dash and is no full name of an option is. -/
def shortened (choices : List (Choice κ)) (argument : String) : Except UsageFault (Token κ) :=
  match candidates choices argument.toList with
  | [(name, c, value)] => .ok (named name c value)
  | [] =>
    if isNegativeNumber argument.toList || argument.toList.contains ' ' then .ok (.plain argument)
    else .ok (.unknown argument)
  | several => .error (.ambiguous argument (several.map (·.1)))

/-- What an argument is. -/
def tokenOf (choices : List (Choice κ)) (argument : String) : Except UsageFault (Token κ) :=
  match argument.toList with
  | '-' :: _ :: _ =>
    match (namesOf choices).lookup argument with
    | some c => .ok (.choice c none)
    | none =>
      let (name, value) := cutValue argument.toList
      match value, (namesOf choices).lookup (String.ofList name) with
      | some v, some c => .ok (named (String.ofList name) c (some v))
      | _, _ => shortened choices argument
  | _ => .ok (.plain argument)

/-- The mark behind which every argument is plain. -/
def divider : String := "--"

/-- What each argument is. The divider itself is of no use here. -/
def tokens (choices : List (Choice κ)) : List String → Except UsageFault (List (Token κ))
  | [] => .ok []
  | a :: rest =>
    if a = divider then .ok (.unknown a :: rest.map .plain)
    else do return (← tokenOf choices a) :: (← tokens choices rest)

/-! ### What the arguments say -/

/-- What arguments say. -/
inductive Step (κ : Type)
  | on (key : κ)
  | value (c : Choice κ) (text : String)
  | extra (text : String)

/-- An option of one letter with a text attached: the value of the option, or else further options of
one letter, which take no value. -/
def clustered (choices : List (Choice κ)) (c : Choice κ) (text : List Char) :
    Except UsageFault (List (Step κ)) :=
  if c.takesValue then .ok [.value c (String.ofList text)]
  else match text with
    | [] => .error (.unwantedValue c.shown "")
    | l :: r =>
      match (namesOf choices).lookup (String.ofList ['-', l]) with
      | none => .error (.unwantedValue c.shown (String.ofList (l :: r)))
      | some d =>
        if r.isEmpty then .ok [.on c.key, .on d.key]
        else (clustered choices d r).map (.on c.key :: ·)

/-- What the arguments say one after another, up to the first fault. -/
def steps (choices : List (Choice κ)) : List (Token κ) → List (Except UsageFault (Step κ))
  | [] => []
  | .plain t :: rest | .unknown t :: rest => .ok (.extra t) :: steps choices rest
  | .choice c (some v) :: rest =>
    if c.takesValue then .ok (.value c v) :: steps choices rest
    else [.error (.unwantedValue c.shown v)]
  | .cluster c text :: rest =>
    match clustered choices c text.toList with
    | .ok said => said.map .ok ++ steps choices rest
    | .error f => [.error f]
  | .choice c none :: .plain t :: rest =>
    if c.takesValue then .ok (.value c t) :: steps choices rest
    else .ok (.on c.key) :: .ok (.extra t) :: steps choices rest
  | .choice c none :: rest =>
    if c.takesValue then [.error (.noValue c.shown)] else .ok (.on c.key) :: steps choices rest

end DeliveryWatch.Command
