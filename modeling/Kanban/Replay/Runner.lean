import Kanban.Refresh.Refresher
import Kanban.Replay.Report

/-!
# `Replay.Runner` — a replay beside its background refresh

The steps of a replay and the refresher that it starts run side by side and share the count of
interactions. Whichever of the two can go on at a moment may go on first. Time stands still while either of
them can, and then runs on to the next moment that one of them waits for. Once all steps are over the
refresher is told to stop, and the run ends with both.

## Contents
- `Player`: the steps, played one thing at a time; `Player.turn`.
- `Choice`, `Runner`: what goes on first; the steps, the refresher and the clock.
- `Runner.move`, `Runner.after`: the next thing that happens, and everything up to a number of things.
- `Runner.wrapped`, `Runner.afterWrapped`: the same run with the count in a machine word.
- `Runner.report`: what comes of a run that has ended.
-/

namespace Kanban

/-! ## The steps -/

/-- A release that waits at a gate. -/
structure Wait where
  pending : Pending String
  gate : Gate
  /-- For how many milliseconds it has waited. -/
  waited : Nat

/-- The steps of a replay on the way. -/
structure Player where
  replay : Replay
  /-- The release that waits, if the step at hand is one. -/
  wait : Option Wait
  /-- The steps that have not been begun. -/
  rest : List ScenarioStep
  /-- How the steps that are over turned out. -/
  results : List StepResult

namespace Player

/-- The step at hand is over. -/
def record (p : Player) (r : Replay) (result : StepResult) : Player :=
  { p with
    replay := r.say (Replay.remark p.results.length result), wait := none, results := p.results ++ [result] }

/-- Whether all steps are over. -/
def done (p : Player) : Bool := p.wait.isNone && p.rest.isEmpty

/-- The next thing that the steps do at this moment, if there is any. -/
def turn (p : Player) : Option Player :=
  match p.wait with
  | some w =>
    match w.gate.verdict p.replay.controller.limit w.waited with
    | none => none
    | some c =>
      let (r, result) := p.replay.conclude w.pending c w.waited
      some (p.record r result)
  | none =>
    match p.rest with
    | [] => none
    | s :: rest =>
      match p.replay.attempt s with
      | (r, .ended result) => some ({ p with rest }.record r result)
      | (r, .waiting pending gate) => some { p with replay := r, wait := some ⟨pending, gate, 0⟩, rest }

/-- Whether the next thing is to scroll between two limits that are out of order, which cannot be done. -/
def crashes (p : Player) : Bool :=
  match p.wait, p.rest, p.replay.controller.session with
  | none, .move _ :: _, some session =>
    !Scroll.ordered p.replay.controller.viewport.bounds session.contentWidth
  | _, _, _ => false

/-- In how many milliseconds the step at hand goes on by itself. -/
def wake (p : Player) : Option Nat :=
  match p.wait, p.replay.controller.limit with
  | some w, some limit => some (limit - w.waited)
  | _, _ => none

/-- Milliseconds pass. -/
def pass (p : Player) (ms : Nat) : Player :=
  { p with wait := p.wait.map fun w => { w with waited := w.waited + ms } }

end Player

/-! ## Side by side -/

/-- What goes on first when there is a choice. -/
structure Choice where
  /-- The steps before the refresher. -/
  steps : Bool
  /-- A tick that is due before a shutdown that is to be heard. -/
  tick : Bool
  deriving DecidableEq, Repr

/-- The steps of a replay, the refresher beside them, and the clock. -/
structure Runner where
  player : Player
  refresher : Option Refresher
  now : Nat
  /-- Whether the refresher has been told that all steps are over. -/
  told : Bool
  /-- Whether one of the two has crashed, and the whole run with it. -/
  crashed : Bool

namespace Runner

/-- A run before anything has happened, with a number of interactions in progress elsewhere. -/
def begin (s : Scenario) (board : Board) (others : Nat) : Runner :=
  ⟨⟨Replay.begin s board others, none, s.steps, []⟩, s.refreshInterval.map Refresher.new, 0, false, false⟩

/-- Whether the run is over: all steps are, and the refresher has stopped. -/
def ended (r : Runner) : Bool := r.told && r.refresher.all (·.background = .ended)

/-- The next thing that the steps do. After the last step the refresher is told to stop. -/
def stepsTurn (r : Runner) : Option Runner :=
  if r.player.crashes then some { r with crashed := true }
  else
    match r.player.turn with
    | some player => some { r with player }
    | none =>
      if r.player.done && !r.told then
        some { r with told := true, refresher := r.refresher.map (·.send true) }
      else none

/-- The next thing that the refresher does. It cannot be started without an interval. -/
def refresherTurn (r : Runner) (tickFirst : Bool) : Option Runner :=
  match r.refresher with
  | none => none
  | some f =>
    if f.background = .notStarted then
      if f.schedule.interval = 0 then some { r with crashed := true }
      else some { r with refresher := some f.start }
    else (f.turn r.player.replay.commons.activity tickFirst).map fun f => { r with refresher := some f }

/-- The next thing that happens at this moment. -/
def turn (r : Runner) (c : Choice) : Option Runner :=
  if c.steps then r.stepsTurn.or (r.refresherTurn c.tick) else (r.refresherTurn c.tick).or r.stepsTurn

/-- In how many milliseconds the refresher goes on by itself. -/
def refresherWake (r : Runner) : Option Nat := r.refresher.bind fun f => f.wake.map (· - f.now)

/-- In how many milliseconds something happens by itself, if ever. -/
def wake (r : Runner) : Option Nat :=
  match r.player.wake, r.refresherWake with
  | some a, some b => some (min a b)
  | a, b => a.or b

/-- Milliseconds pass for both. -/
def pass (r : Runner) (ms : Nat) : Runner :=
  { r with
    player := r.player.pass ms, refresher := r.refresher.map fun f => f.passUntil (f.now + ms)
    now := r.now + ms }

/-- The next thing that happens. A run that is over or has crashed stays as it is, and so does one in which
    nothing will ever happen. -/
def move (r : Runner) (c : Choice) : Runner :=
  if r.ended || r.crashed then r
  else
    match r.turn c with
    | some next => next
    | none =>
      match r.wake with
      | some ms => r.pass ms
      | none => r

/-- The run after a number of things have happened. -/
def after (r : Runner) (choose : Nat → Choice) : Nat → Runner
  | 0 => r
  | k + 1 => (r.after choose k).move (choose k)

/-- The run with the count in a machine word. -/
def wrapped (r : Runner) : Runner :=
  { r with player.replay.commons.activity := r.player.replay.commons.activity.wrapped }

/-- The next thing that happens where the count is kept in a machine word. Nothing that happens changes the
    count by more than one, so to wrap it afterwards is to wrap every addition. -/
def moveWrapped (r : Runner) (c : Choice) : Runner := (r.move c).wrapped

/-- The run after a number of things have happened where the count is kept in a machine word. -/
def afterWrapped (r : Runner) (choose : Nat → Choice) : Nat → Runner
  | 0 => r
  | k + 1 => (r.afterWrapped choose k).moveWrapped (choose k)

/-- What has come of a run: nothing before it is over. -/
def report (r : Runner) (s : Scenario) : Option (Except Fault Report) :=
  if r.ended && !r.crashed then some (s.report r.player.replay r.player.results) else none

end Runner

end Kanban
