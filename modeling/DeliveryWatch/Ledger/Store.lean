/-
Stores of pings: what the token filter needs to know of the pings that were sent.

* `Store σ` — three operations on resources of the kind `σ`: check that the pings can be read, find
  the ping of a token that was not seen yet, and write a delivery back. Each is one step that no
  other one interrupts.
-/
import DeliveryWatch.Log.Entry
import DeliveryWatch.Pipeline.Fault
import DeliveryWatch.Time.Basic

namespace DeliveryWatch.Ledger

/-- What a lookup reads from a ping. -/
inductive Found
  | value (v : Database.Value)
  | time (t : Time)
  deriving Repr, DecidableEq

/-- A ping that was sent and not seen yet. -/
structure Ping where
  token : String
  found : Found := .value .null
  deriving Repr, DecidableEq

/-- What is written to a ping when its mail arrives. -/
structure Delivery where
  token : String
  /-- The delay of the delivery in seconds. -/
  delay : Int
  header : String
  body : String
  receivedTime : Time
  deriving Repr, DecidableEq

/-- What an operation of a store ends with: its result, the resources after it, and what it writes
to the log. -/
structure Report (σ α : Type) where
  result : Except Fault α
  resources : σ
  log : List (Log.Level × String) := []

/-- The operations of a store of pings. -/
structure Store (σ : Type) where
  /-- Check that the pings can be read. -/
  validate : σ → Report σ Unit
  /-- The ping of a token, if there is one that was not seen yet. -/
  find : String → σ → Report σ (Option Ping)
  /-- Write a delivery to its ping and mark it seen; the result is the number of pings changed. -/
  record : Delivery → σ → Report σ Nat

end DeliveryWatch.Ledger
