import Kanban.Activity.Basic
import Kanban.Dict

/-!
# `Activity.Ledger` — counters with several holders

A counter is read and changed through its members. A member can be duplicated, and a guard holds one unit
of a counter until it is given back.

## Contents
- `Ledger`, its steps and `Ledger.run`.
- `Ledger.releaseAll`: giving back what all guards hold.
-/

namespace Kanban

/-- Counters, the members that share them, and the guards that hold a unit of one. -/
structure Ledger where
  counters : List Activity
  /-- For each member, the counter it belongs to. -/
  members : List Nat
  /-- For each named guard, the counter it holds a unit of. -/
  guards : Dict Nat

namespace Ledger

/-- One counter with one member. -/
def initial : Ledger := ⟨[Activity.idle], [0], Dict.empty⟩

/-- A step on a ledger. Members are addressed by their position. -/
inductive Step where
  | increment (member : Nat)
  | decrement (member : Nat)
  /-- Take a unit and keep it under a name. A guard of that name is given back afterwards. -/
  | guard (name : String) (member : Nat)
  /-- Give back the guard of a name, if there is one. -/
  | drop (name : String)
  /-- Append a member of the same counter. -/
  | duplicate (member : Nat)
  /-- Append a counter with a member of its own. -/
  | create
  deriving DecidableEq, Repr

/-- Change one counter. -/
def update (l : Ledger) (counter : Nat) (f : Activity → Activity) : Ledger :=
  { l with counters := l.counters.modify counter f }

/-- Do something with the counter of a member; nothing for a position without member. -/
def onMember (l : Ledger) (member : Nat) (f : Nat → Ledger) : Ledger :=
  match l.members[member]? with
  | some counter => f counter
  | none => l

/-- Give back the guard of a name, if there is one. -/
def release (l : Ledger) (name : String) : Ledger :=
  match l.guards.get? name with
  | some counter => { l.update counter Activity.decrement with guards := l.guards.erase name }
  | none => l

/-- The ledger after a step. -/
def step (l : Ledger) : Step → Ledger
  | .increment m => l.onMember m fun k => l.update k Activity.increment
  | .decrement m => l.onMember m fun k => l.update k Activity.decrement
  | .guard name m => l.onMember m fun k =>
      let taken := (l.update k Activity.increment).release name
      { taken with guards := taken.guards.insert name k }
  | .drop name => l.release name
  | .duplicate m => l.onMember m fun k => { l with members := l.members ++ [k] }
  | .create =>
      { l with counters := l.counters ++ [Activity.idle], members := l.members ++ [l.counters.length] }

/-- The ledger after several steps. -/
def run (l : Ledger) (steps : List Step) : Ledger := steps.foldl step l

/-- The ledger once every guard is given back. -/
def releaseAll (l : Ledger) : Ledger := l.guards.keys.foldl release l

/-- What each member reads. -/
def readings (l : Ledger) : List Activity := l.members.map fun k => l.counters.getD k Activity.idle

end Ledger

end Kanban
