import Kanban.Refresh.Refresher

/-!
# `Refresh.Channel` — a channel that keeps its latest value, and a run that listens to it

Words about shutting down come through a channel. It has a value from the beginning on, and of the values
that are sent it keeps the latest one. Its only listener is told that there is a value it has not seen, however
many were sent, and after that, that nothing more is sent. The value it then looks at is the latest one. Since
the first value was never sent, nobody is told of it.

## Contents
- `Channel`, `Channel.send`, `Channel.close`, `Channel.news?`, `Channel.look`, `Channel.stops`.
- `Channel.shutdown`: what a channel has to say.
- `Listener`: a refresher whose background run listens to a channel; `Listener.turn`, `Listener.step`,
  `Listener.run`, `Listener.told`.
-/

namespace Kanban

/-- A channel of flags with one listener. -/
structure Channel where
  /-- The latest value. -/
  value : Bool
  /-- How many values were sent after the first one. -/
  sent : Nat
  /-- How many of them the listener knows of. -/
  seen : Nat
  /-- Whether nothing more can be sent. -/
  closed : Bool
  seen_le : seen ≤ sent

namespace Channel

/-- A channel through which nothing was sent yet. -/
def opened (first : Bool) : Channel := ⟨first, 0, 0, false, Nat.le_refl 0⟩

def send (c : Channel) (value : Bool) : Channel :=
  { c with value, sent := c.sent + 1, seen_le := Nat.le_succ_of_le c.seen_le }

def close (c : Channel) : Channel := { c with closed := true }

/-- What a listener is told. -/
inductive News where
  /-- There is a value that it has not seen. -/
  | fresh
  /-- Nothing more is sent. -/
  | closed
  deriving DecidableEq, Repr

/-- What there is to be told at present: an unseen value before the end. -/
def news? (c : Channel) : Option News :=
  if c.seen < c.sent then some .fresh else if c.closed then some .closed else none

/-- The channel once the listener knows of all values. -/
def look (c : Channel) : Channel := { c with seen := c.sent, seen_le := Nat.le_refl _ }

/-- Whether a listener that is told something is to stop: it looks at the value, unless nothing more is sent. -/
def stops (c : Channel) : News → Bool
  | .fresh => c.value
  | .closed => true

/-- What the channel has to say about shutting down. -/
def shutdown (c : Channel) : Shutdown := ⟨if c.seen < c.sent then some c.value else none, c.closed⟩

end Channel

/-- A refresher whose background run listens to a channel. What the refresher itself has been told about
    shutting down plays no part. -/
structure Listener where
  refresher : Refresher
  channel : Channel

namespace Listener

/-- A refresher that does not run yet, and a channel with its first value. -/
def new (interval : Nat) (first : Bool) : Listener := ⟨Refresher.new interval, Channel.opened first⟩

/-- The background run is told something. One that stops has no more use for the channel. -/
def hear (l : Listener) (news : Channel.News) : Listener :=
  if l.channel.stops news then { l with refresher := { l.refresher with background := .ended } }
  else { l with channel := l.channel.look }

/-- The next thing that the background run does at this moment, if there is any. The flag says what comes
    first if a tick is due and there are news. -/
def turn (l : Listener) (a : Activity) (tickFirst : Bool) : Option Listener :=
  match l.refresher.background with
  | .calling finish next =>
    if finish ≤ l.refresher.now then some { l with refresher := { l.refresher with background := .resting next } }
    else none
  | .resting next =>
    if next ≤ l.refresher.now && (tickFirst || l.channel.news?.isNone) then
      some { l with refresher := l.refresher.backgroundTick a }
    else l.channel.news?.map l.hear
  | .notStarted | .ended => none

/-- What happens while a number of interactions are in progress. Nothing is sent to a run that has ended. -/
def step (l : Listener) (a : Activity) : Refresher.Event → Listener
  | .turn tickFirst => (l.turn a tickFirst).getD l
  | .pass ms =>
    if (l.turn a true).isNone then { l with refresher := l.refresher.passUntil (l.refresher.now + ms) } else l
  | .send value => if l.refresher.listening then { l with channel := l.channel.send value } else l
  | .close => { l with channel := l.channel.close }
  | e => { l with refresher := l.refresher.step a e }

/-- Several events, each with the number of interactions in progress. -/
def run (l : Listener) (events : List (Activity × Refresher.Event)) : Listener :=
  events.foldl (fun l (a, e) => l.step a e) l

/-- The refresher, told what the channel has to say. -/
def told (l : Listener) : Refresher := { l.refresher with shutdown := l.channel.shutdown }

end Listener

end Kanban
