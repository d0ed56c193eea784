import Kanban.Activity.Basic
import Kanban.Refresh.Schedule

/-!
# `Refresh.Refresher` — refreshing in the background

A refresher calls a sink again and again, unless interactions are in progress. Its background run rests
between ticks; while it rests it also hears of a shutdown. A call of the sink may take a while, and the run
does nothing else meanwhile.

Time stands still while the run has anything to do. If a tick is due and a shutdown is to be heard at the
same moment, either may come first.

## Contents
- `Shutdown`, `Sink`, `Tick`, `Background`, `Refresher`.
- `Refresher.turn`: the next thing that the background run does.
- `Refresher.Event`, `Refresher.step`, `Refresher.run`.
- `Refresher.settle`, `Refresher.wait`: everything that is due now, or within a time.
-/

namespace Kanban

/-- What has been said about shutting down. -/
structure Shutdown where
  /-- The latest word, if nobody has heard it yet. -/
  unheard : Option Bool
  /-- Whether nothing more can be said. -/
  closed : Bool
  deriving DecidableEq, Repr

/-- Whether there is something to hear. -/
def Shutdown.audible (s : Shutdown) : Bool := s.unheard.isSome || s.closed

/-- What is called to refresh. -/
structure Sink where
  /-- Whether calls fail. -/
  failing : Bool
  /-- Milliseconds that a call takes. -/
  delay : Nat
  deriving DecidableEq, Repr

/-- What became of a tick. -/
structure Tick where
  time : Nat
  /-- Whether it was a tick of the background run. -/
  background : Bool
  /-- How long the call of the sink takes; there is none if interactions were in progress. -/
  call : Option Nat
  deriving DecidableEq, Repr

/-- Where a background run is. -/
inductive Background where
  | notStarted
  /-- Until the next tick is due. -/
  | resting (next : Nat)
  /-- In a call of the sink that is over at a time. -/
  | calling (finish next : Nat)
  | ended
  deriving DecidableEq, Repr

/-- A refresher on a clock. -/
structure Refresher where
  now : Nat
  /-- When ticks of the background run are due; it starts with the run. -/
  schedule : Schedule
  background : Background
  shutdown : Shutdown
  sink : Sink
  /-- All ticks so far, the latest first. -/
  ticks : List Tick
  deriving DecidableEq, Repr

namespace Refresher

/-- A refresher that does not run yet. -/
def new (interval : Nat) : Refresher := ⟨0, ⟨0, interval⟩, .notStarted, ⟨none, false⟩, ⟨false, 0⟩, []⟩

/-! ## Ticks -/

/-- What becomes of a tick: the sink is called unless interactions are in progress. -/
def tickNow (r : Refresher) (a : Activity) (background : Bool) : Tick :=
  ⟨r.now, background, if a.suppressed then none else some r.sink.delay⟩

/-- A tick that somebody asks for. -/
def tick (r : Refresher) (a : Activity) : Refresher := { r with ticks := r.tickNow a false :: r.ticks }

/-- The background run after a tick. A call that takes no time is over at once. -/
def afterTick (r : Refresher) (t : Tick) : Background :=
  match t.call with
  | none | some 0 => .resting (r.schedule.dueAfter r.now)
  | some delay => .calling (r.now + delay) (r.schedule.dueAfter r.now)

/-- A tick of the background run. -/
def backgroundTick (r : Refresher) (a : Activity) : Refresher :=
  let t := r.tickNow a true
  { r with background := r.afterTick t, ticks := t :: r.ticks }

/-- The times at which the sink was called, earliest first. -/
def calls (ticks : List Tick) : List Nat := (ticks.filter (·.call.isSome)).reverse.map (·.time)

/-! ## Shutting down -/

/-- Hear the latest word, or that nothing more is said. The run goes on only if the word is not to stop. -/
def hear (r : Refresher) : Refresher :=
  match r.shutdown.unheard with
  | some false => { r with shutdown := { r.shutdown with unheard := none } }
  | some true | none => { r with background := .ended }

/-- Whether somebody still listens. -/
def listening (r : Refresher) : Bool := r.background ≠ .ended

/-- Say something about shutting down. Once the run has ended nobody takes note. -/
def send (r : Refresher) (value : Bool) : Refresher :=
  if r.listening then { r with shutdown := { r.shutdown with unheard := some value } } else r

/-- Nothing more is said. -/
def close (r : Refresher) : Refresher := { r with shutdown := { r.shutdown with closed := true } }

/-! ## The background run -/

/-- Start the background run; its first tick is due at once. One that was started before goes on. -/
def start (r : Refresher) : Refresher :=
  match r.background with
  | .notStarted => { r with background := .resting r.now, schedule := { r.schedule with start := r.now } }
  | _ => r

/-- The next thing that the background run does at this moment, if there is any. The flag says what comes
    first if a tick is due and a shutdown is to be heard. -/
def turn (r : Refresher) (a : Activity) (tickFirst : Bool) : Option Refresher :=
  match r.background with
  | .calling finish next =>
    if finish ≤ r.now then some { r with background := .resting next } else none
  | .resting next =>
    if next ≤ r.now && (tickFirst || !r.shutdown.audible) then some (r.backgroundTick a)
    else if r.shutdown.audible then some r.hear
    else none
  | .notStarted | .ended => none

/-- Whether the background run has nothing to do at this moment. -/
def parked (r : Refresher) (a : Activity) : Bool := (r.turn a true).isNone

/-- When the background run next has something to do by itself. -/
def wake (r : Refresher) : Option Nat :=
  match r.background with
  | .calling finish _ => some finish
  | .resting next => some next
  | .notStarted | .ended => none

/-- Let time pass up to a moment, or until the background run has something to do. -/
def passUntil (r : Refresher) (moment : Nat) : Refresher :=
  { r with now := max r.now (match r.wake with
      | some w => min moment w
      | none => moment) }

/-! ## Events -/

/-- Something that happens to a refresher. -/
inductive Event where
  /-- The background run does the next thing, if there is any. -/
  | turn (tickFirst : Bool)
  /-- At most so many milliseconds pass. -/
  | pass (ms : Nat)
  | start
  /-- Somebody asks for a tick. -/
  | tick
  | send (value : Bool)
  | close
  | setFailing (on : Bool)
  | setDelay (ms : Nat)
  deriving DecidableEq, Repr

/-- The refresher after an event, while a number of interactions are in progress. -/
def step (r : Refresher) (a : Activity) : Event → Refresher
  | .turn tickFirst => (r.turn a tickFirst).getD r
  | .pass ms => if r.parked a then r.passUntil (r.now + ms) else r
  | .start => r.start
  | .tick => r.tick a
  | .send value => r.send value
  | .close => r.close
  | .setFailing on => { r with sink := { r.sink with failing := on } }
  | .setDelay ms => { r with sink := { r.sink with delay := ms } }

/-- The refresher after several events, each with the number of interactions in progress. -/
def run (r : Refresher) (events : List (Activity × Event)) : Refresher :=
  events.foldl (fun r (a, e) => r.step a e) r

/-! ## Everything that is due -/

/-- A number of turns; a shutdown is heard before a tick. -/
def turns (r : Refresher) (a : Activity) : Nat → Refresher
  | 0 => r
  | n + 1 => (r.step a (.turn false)).turns a n

/-- Everything that is due at this moment: a call that is over, a tick, a word and the end of all words, and
    no more. -/
def settle (r : Refresher) (a : Activity) : Refresher := r.turns a 4

/-- Let time pass up to a moment that is so many milliseconds away at most, and everything that falls due. -/
def waitUntil (r : Refresher) (a : Activity) (moment : Nat) : Nat → Refresher
  | 0 => r.settle a
  | n + 1 =>
    let r := r.settle a
    if moment ≤ r.now then r else (r.passUntil moment).waitUntil a moment n

/-- Let milliseconds pass, and everything that falls due meanwhile. -/
def wait (r : Refresher) (a : Activity) (ms : Nat) : Refresher := r.waitUntil a (r.now + ms) ms

end Refresher

end Kanban
