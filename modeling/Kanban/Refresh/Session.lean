import Kanban.Fault
import Kanban.Refresh.Refresher

/-!
# `Refresh.Session` — somebody works with a refresher

## Contents
- `RefreshSession`, `RefreshSession.Step`, `RefreshSession.Outcome`.
- `RefreshSession.step`.
-/

namespace Kanban

/-- A refresher and the interactions that hold it back. -/
structure RefreshSession where
  refresher : Refresher
  activity : Activity

namespace RefreshSession

/-- What is done with a refresher. -/
inductive Step where
  /-- Start the background run. -/
  | start
  /-- Ask for a tick and wait until it is over. -/
  | tick
  | sleep (ms : Nat)
  /-- Begin an interaction. -/
  | guard
  /-- End an interaction, if one is in progress. -/
  | unguard
  /-- Let the sink fail from now on, or work again. -/
  | fail (on : Bool)
  /-- Set how long calls of the sink take. -/
  | delay (ms : Nat)
  | shutdown (value : Bool)
  | close
  deriving DecidableEq, Repr

/-- What the one who does it learns. -/
inductive Outcome where
  | nothing
  /-- Whether the sink was called, or why the call failed. -/
  | ticked (result : Except Fault Bool)
  /-- Whether somebody listens. -/
  | heard (listening : Bool)

/-- A refresher that does not run yet, and no interaction. -/
def new (interval : Nat) : RefreshSession := ⟨Refresher.new interval, Activity.idle⟩

/-- What a failing sink says. -/
def sinkFault : Fault := .validation "sink failed"

/-- Do something to the refresher and then everything that is due. -/
def act (s : RefreshSession) (e : Refresher.Event) : RefreshSession :=
  { s with refresher := (s.refresher.step s.activity e).settle s.activity }

/-- Ask for a tick and wait until it is over. -/
def tick (s : RefreshSession) : RefreshSession × Outcome :=
  let s' := s.act .tick
  match (s.refresher.tickNow s.activity false).call with
  | none => (s', .ticked (.ok false))
  | some delay =>
    let result := if s.refresher.sink.failing then .error sinkFault else .ok true
    ({ s' with refresher := s'.refresher.wait s.activity delay }, .ticked result)

/-- Say something about shutting down, unless nothing more can be said. -/
def shutdown (s : RefreshSession) (value : Bool) : RefreshSession × Outcome :=
  if s.refresher.shutdown.closed then (s, .nothing)
  else (s.act (.send value), .heard s.refresher.listening)

/-- Whether a step would start a background run without an interval, which cannot be. -/
def impossible (s : RefreshSession) (x : Step) : Bool :=
  x = .start && s.refresher.background = .notStarted && s.refresher.schedule.interval = 0

/-- One step. -/
def step (s : RefreshSession) : Step → RefreshSession × Outcome
  | .start => (s.act .start, .nothing)
  | .tick => s.tick
  | .sleep ms => ({ s with refresher := s.refresher.wait s.activity ms }, .nothing)
  | .guard => ({ s with activity := s.activity.increment }, .nothing)
  | .unguard => ({ s with activity := s.activity.decrement }, .nothing)
  | .fail on => (s.act (.setFailing on), .nothing)
  | .delay ms => (s.act (.setDelay ms), .nothing)
  | .shutdown value => s.shutdown value
  | .close => (s.act .close, .nothing)

/-! ## Several steps -/

/-- What one step came to. -/
structure Turn where
  outcome : Outcome
  session : RefreshSession
  /-- When the sink was called meanwhile. -/
  calls : List Nat

/-- One step and what it came to; nothing if it is impossible. -/
def turn (s : RefreshSession) (x : Step) : Option Turn :=
  if s.impossible x then none
  else
    let (s', outcome) := s.step x
    let fresh := s'.refresher.ticks.take (s'.refresher.ticks.length - s.refresher.ticks.length)
    some ⟨outcome, s', Refresher.calls fresh⟩

/-- Several steps and what they came to; nothing if one of them is impossible. -/
def run (s : RefreshSession) : List Step → Option (List Turn)
  | [] => some []
  | x :: rest => do
    let t ← s.turn x
    return t :: (← t.session.run rest)

/-- Whether the background run is over, once it has started. -/
def stopped (s : RefreshSession) : Option Bool :=
  match s.refresher.background with
  | .notStarted => none
  | .ended => some true
  | _ => some false

end RefreshSession

end Kanban
