/-
Faults: why a stage, a store of pings or a pipeline fails.

* `Fault.isStage` — the faults of stages that a pipeline turns into a temporary failure;
* `Fault.isStore` — the faults of stores that keep a stage from being activated;
* `Fault.isInterrupt` — what is raised to end the program, and is no fault of the work it ends;
* `Fault.handedOver` — what is left of a fault for the one who waits for the thread it was raised in.

A handler of everything that may go wrong lets interrupts pass. Two more kinds of faults are lost on the way
out of a thread: one that says that nothing is left to go through can be given to nobody, so that whoever
waits for the thread waits for ever, and one that says that a call was called off arrives as an interrupt.
A fault of a kind derived from the first of these would arrive as a value, and is left out.
-/
import DeliveryWatch.Database.Table

namespace DeliveryWatch

/-- Why something fails. -/
inductive Fault
  /-- A stage cannot process an envelope. -/
  | stage (text stageName : String)
  /-- A stage cannot be activated. -/
  | activation (text stageName : String)
  /-- A pipeline stays inactive because a stage cannot be activated. -/
  | pipeline (text : String)
  /-- A ping cannot be looked up. -/
  | lookup (text : String)
  /-- A delivery cannot be written back. -/
  | update (text : String)
  /-- A store of pings fails in another way. -/
  | store (text : String)
  /-- Nothing is left to go through. -/
  | exhausted (text : String)
  /-- A call was called off. -/
  | calledOff (text : String)
  /-- The program is to end. -/
  | interrupt (kind text : String)
  /-- Any other fault, which nobody expects. -/
  | other (kind text : String)
  deriving Repr, DecidableEq

namespace Fault

/-- The account of the fault. -/
def message : Fault → String
  | stage text _ | activation text _ | pipeline text | lookup text | update text | store text
  | exhausted text | calledOff text | interrupt _ text | other _ text => text

/-- Whether a stage reports that it cannot do its work. -/
def isStage : Fault → Bool
  | stage _ _ | activation _ _ => true
  | _ => false

/-- Whether a store of pings reports the fault. -/
def isStore : Fault → Bool
  | lookup _ | update _ | store _ => true
  | _ => false

/-- Whether a handler of everything that may go wrong lets it pass. -/
def isInterrupt : Fault → Bool
  | interrupt _ _ => true
  | _ => false

/-- What the one learns who waits for a thread in which the fault was raised, if anything. -/
def handedOver : Fault → Option Fault
  | exhausted _ => none
  | calledOff text => some (interrupt "CancelledError" text)
  | f => some f

/-- A whole number that has no place in a cell. -/
def tooLarge : Fault :=
  other Database.Fault.tooLarge.name "Python int too large to convert to SQLite INTEGER"

end Fault

end DeliveryWatch
