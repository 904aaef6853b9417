/-
Calls of a store of pings, as data.

* `Call`, `Answer`, `Store.callAll` — what a store is asked for, and what it answers to calls one after
  another;
* `Store.tapped` — a store that does what it did before, and notes the calls it gets;
* `settle_tap` — what an operation leaves is taken over together with the notes.
-/
import DeliveryWatch.Stage.TokenFilter

namespace DeliveryWatch

/-! ### Calls and answers -/

namespace Ledger

/-- A call of a store of pings. -/
inductive Call
  | validate
  | find (token : String)
  | record (d : Delivery)
  deriving Repr, DecidableEq

/-- What a store answers to a call. -/
inductive Answer
  | readable
  | found (ping : Option Ping)
  | changed (pings : Nat)
  deriving Repr, DecidableEq

variable {σ α : Type}

namespace Store

/-- Make a call of a store: the answer, and the resources after it. -/
def call (store : Store σ) : Call → σ → Except Fault Answer × σ
  | .validate, r => ((store.validate r).result.map fun _ => .readable, (store.validate r).resources)
  | .find token, r => ((store.find token r).result.map .found, (store.find token r).resources)
  | .record d, r => ((store.record d r).result.map .changed, (store.record d r).resources)

/-- Make calls of a store one after another, whatever they answer. -/
def callAll (store : Store σ) : List Call → σ → List (Except Fault Answer) × σ
  | [], r => ([], r)
  | c :: rest, r =>
    let (answer, r) := store.call c r
    let (answers, r) := store.callAll rest r
    (answer :: answers, r)

end Store

/-! ### Stores that note their calls -/

/-- Resources, and the calls of a store on them so far. -/
structure Tapped (σ : Type) where
  resources : σ
  calls : List Call

/-- The report with these calls beside the resources. -/
def Report.tap (x : Report σ α) (calls : List Call) : Report (Tapped σ) α where
  result := x.result
  resources := ⟨x.resources, calls⟩
  log := x.log

/-- The store, which notes the calls it gets. -/
def Store.tapped (store : Store σ) : Store (Tapped σ) where
  validate r := (store.validate r.resources).tap (r.calls ++ [.validate])
  find token r := (store.find token r.resources).tap (r.calls ++ [.find token])
  record d r := (store.record d r.resources).tap (r.calls ++ [.record d])

end Ledger

open Ledger

variable {σ α : Type}

/-- The scene with calls beside the resources. -/
def Scene.tap (s : Scene σ) (calls : List Call) : Scene (Tapped σ) where
  resources := ⟨s.resources, calls⟩
  metrics := s.metrics
  log := s.log
  current := s.current

/-- What an operation leaves is taken over together with the notes. -/
theorem Stage.settle_tap (x : Report σ α) (s : Scene σ) (earlier calls : List Call) :
    settle (x.tap calls) (s.tap earlier) = (settle x s).tap calls := by
  have hnotes : ∀ (log : List (Log.Level × String)) (u : Scene σ),
      log.foldl (fun v entry => v.note entry.1 entry.2) (u.tap calls)
        = (log.foldl (fun v entry => v.note entry.1 entry.2) u).tap calls := by
    intro log
    induction log with
    | nil => exact fun u => rfl
    | cons entry rest ih => exact fun u => ih (u.note entry.1 entry.2)
  exact hnotes x.log { s with resources := x.resources }

end DeliveryWatch
