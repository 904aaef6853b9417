/-
Assembly: the pipeline that the configuration names, from a registry of stages.

* `Registry.register` adds a name once; names count without blanks at the ends and without case;
* `Registry.find?` and `Registry.lookup` find what was registered under a name;
* `Plan` — the configured stage names, and the table and field of the pings;
* `shippedStages` — a registry of the three stages: the reader of headers, the token filter over the
  table of pings, and the mail box;
* `assemble` — the stages of the configured names, in order; the first name that is not registered is
  a fault, and so is a plan without any name. An empty registry stands for the shipped one, as if none
  were given (`Registry.orShipped`).
-/
import DeliveryWatch.Json.Printer
import DeliveryWatch.Ledger.Table
import DeliveryWatch.Pipeline.Run
import DeliveryWatch.Stage.Headers
import DeliveryWatch.Stage.MailBox
import DeliveryWatch.Stage.TokenFilter
import DeliveryWatch.Text.Case

namespace DeliveryWatch

/-! ### Registries -/

/-- Names with what is registered under each, in the order of registration. -/
structure Registry (α : Type) where
  entries : List (String × α) := []

namespace Registry

/-- Why a name cannot be registered or has no stage. -/
inductive Fault
  | noName
  | taken (name : Option String)
  | unknown (name : Option String) (available : List String)
  deriving Repr, DecidableEq

/-- The account of the fault. -/
def Fault.message : Fault → String
  | noName => "Cannot register a stage without a name"
  | taken name => "Stage already registered: " ++ Json.displayText name
  | unknown name available =>
    "Unknown pipeline stage: " ++ Json.displayText name ++ ". Available: " ++
      String.intercalate ", " available

variable {α : Type}

/-- The form in which names are compared: no blanks at the ends, lower case. -/
def key (name : String) : String := String.ofList (Text.lower (Text.strip name.toList))

/-- The key of a name that may be missing. -/
def keyOf (name : Option String) : String := key (name.getD "")

/-- What is registered under a name. -/
def find? (r : Registry α) (name : Option String) : Option α := r.entries.lookup (keyOf name)

/-- Whether something is registered under a name. -/
def contains (r : Registry α) (name : Option String) : Bool := (r.find? name).isSome

/-- Register something under a name. -/
def register (r : Registry α) (name : Option String) (a : α) : Except Fault (Registry α) :=
  if (keyOf name).isEmpty then .error .noName
  else if r.contains name then .error (.taken name)
  else .ok ⟨r.entries ++ [(keyOf name, a)]⟩

/-- The registered names in order. -/
def names (r : Registry α) : List String := (r.entries.map (·.1)).mergeSort fun a b => a ≤ b

/-- What is registered under a name, or the fault that names what there is. -/
def lookup (r : Registry α) (name : Option String) : Except Fault α :=
  match r.find? name with
  | some a => .ok a
  | none => .error (.unknown name r.names)

def size (r : Registry α) : Nat := r.entries.length

end Registry

/-! ### Pipelines -/

/-- What the configuration says of the pipeline. -/
structure Plan where
  /-- The names of the stages, parted by bars. -/
  process : String := "HeadersParser|GuidFilter|MailStore"
  table : String := "pings"
  field : String := "guid"
  deriving Repr, DecidableEq

/-- The names of the stages: the parts between bars without blanks at their ends, blank parts left
out. -/
def Plan.stageNames (p : Plan) : List String :=
  ((p.process.toList.splitOn '|').map Text.strip).filterMap fun part =>
    if part.isEmpty then none else some (String.ofList part)

/-- Why a pipeline cannot be assembled. -/
inductive AssemblyFault
  | noStages
  | unknown (f : Registry.Fault)
  | name (f : Database.NameFault)
  deriving Repr, DecidableEq

/-- The account of the fault. -/
def AssemblyFault.message : AssemblyFault → String
  | noStages => "SAVE_PROCESS does not name any stage"
  | unknown f => f.message
  | name f => f.message

/-- What the shipped stages work on: the database, and the time of day. -/
structure Premises where
  database : Database := {}
  now : Time

/-- Access to the database of the premises. -/
def Premises.access : Access Premises := ⟨Premises.database, fun db p => { p with database := db }⟩

/-- How to make a stage; making it may fail. -/
abbrev Maker (σ : Type) := Unit → Except AssemblyFault (Stage σ)

/-- The stages of the program and how they are made. -/
def shippedStages {σ : Type} (access : Access σ) (clock : σ → Time) (p : Plan) :
    Registry (Maker σ) :=
  let makeFilter : Maker σ := fun _ =>
    match Ledger.PingTable.describe? (some p.table) (some p.field) with
    | .ok t => .ok (Stage.tokenFilter (t.store access) clock)
    | .error f => .error (.name f)
  ⟨[("headersparser", fun _ => .ok Stage.headers), ("guidfilter", makeFilter),
    ("mailstore", fun _ => .ok (Stage.mailBox access))]⟩

/-- Make the stage of a name. -/
def Registry.make {σ : Type} (r : Registry (Maker σ)) (name : String) :
    Except AssemblyFault (Stage σ) :=
  match r.lookup (some name) with
  | .ok make => make ()
  | .error f => .error (.unknown f)

/-- The registry that stages come from: the one that is given, unless there is none or it is empty. -/
def Registry.orShipped {σ : Type} (shipped : Registry (Maker σ)) (given : Option (Registry (Maker σ))) :
    Registry (Maker σ) :=
  (given.filter fun r => r.size != 0).getD shipped

/-- The pipeline that the configuration names, made from the stages of a registry. -/
def assemble {σ : Type} (shipped : Registry (Maker σ)) (p : Plan)
    (given : Option (Registry (Maker σ)) := none) : Except AssemblyFault (Pipeline σ) := do
  let r := Registry.orShipped shipped given
  if p.stageNames.isEmpty then .error .noStages
  let stages ← p.stageNames.mapM r.make
  return { stages := stages }

/-- The account of an assembled pipeline. -/
def Pipeline.account {σ : Type} (p : Pipeline σ) : String :=
  "Built pipeline: " ++ String.intercalate " -> " p.names

end DeliveryWatch
