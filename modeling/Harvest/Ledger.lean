/-!
Contract: the record of what has been done.

A ledger holds each identity at most once.
-/

namespace Harvest

structure Ledger where
  done : List Nat := []

namespace Ledger

def contains (ledger : Ledger) (identity : Nat) : Bool :=
  ledger.done.contains identity

def insert (ledger : Ledger) (identity : Nat) : Ledger :=
  if ledger.contains identity then ledger else ⟨identity :: ledger.done⟩

def size (ledger : Ledger) : Nat :=
  ledger.done.length

def isEmpty (ledger : Ledger) : Bool :=
  ledger.done.isEmpty

end Ledger

end Harvest
