import Kanban.Drag.Scene

/-!
# `Drag.Desk` — a person at the board

A desk is a scene whose drop zones open dialogs, with a person beside it who may act while a release waits.
Time is counted in milliseconds and stands still while anything can happen, so it is known exactly what
happens at which moment: at each one the release looks at its gate first, and then the person acts.

## Contents
- `Dialog`, `UserAct`, `Cue`: what dialogs and the person do.
- `Moment`: what an observer writes down.
- `Desk.act`, `Desk.release`, `Desk.step`.
-/

namespace Kanban

/-- What a drop zone's callback does: it may change the board, and then it deals with its confirmation. A
    confirmation that is kept is parked for the person to answer. -/
structure Dialog where
  tag : String
  edit : Option Board.Edit
  answer : Answer

/-- What a person does. Answers go to the confirmation that has been parked for the longest time. -/
inductive UserAct where
  | accept
  | reject
  | abandon
  | look
  | increment
  | decrement
  | poison
  | heal
  | edit (e : Board.Edit)

/-- An act and how long after the one before it follows. -/
structure Cue where
  act : UserAct
  after : Nat

/-- What an observer sees happen. -/
inductive Sight where
  | startCallback (issue : Payload)
  | acceptCallback (tag : String) (issue : Payload)
  | user (act : UserAct) (note : Scene.Note Dialog)

/-- What an observer writes down. -/
structure Moment where
  sight : Sight
  phase : Phase
  count : Nat

/-- A scene with dialogs and the confirmations that are parked, oldest first. -/
structure Desk where
  scene : Scene Dialog
  parked : List Nat

namespace Desk

/-- Write down what is seen now. -/
def observe (d : Desk) (sight : Sight) : Moment :=
  ⟨sight, d.scene.controller.phase, d.scene.commons.activity.count⟩

/-- Let something happen in the scene. -/
def happen (d : Desk) (e : Scene.Event Dialog) : Desk × Scene.Note Dialog :=
  let (scene, note) := d.scene.step e
  ({ d with scene }, note)

/-- Do something with the oldest parked confirmation, if there is one. -/
def withOldest (d : Desk) (e : Nat → Scene.Event Dialog) : Desk × Scene.Note Dialog :=
  match d.parked with
  | [] => (d, .nothing)
  | gate :: parked => { d with parked }.happen (e gate)

/-- What the person does and learns. -/
def act (d : Desk) : UserAct → Desk × Scene.Note Dialog
  | .accept => d.withOldest fun gate => .answer gate true
  | .reject => d.withOldest fun gate => .answer gate false
  | .abandon => d.withOldest .abandon
  | .look => (d, .nothing)
  | .increment => d.happen .increment
  | .decrement => d.happen .decrement
  | .poison => d.happen .poison
  | .heal => d.happen .heal
  | .edit e => d.happen (.edit e)

/-- What a dialog does when a release opens it. -/
def runDialog (d : Desk) (dialog : Dialog) (gate : Nat) : Desk :=
  let d := match dialog.edit with
    | some e => (d.happen (.edit e)).1
    | none => d
  match dialog.answer with
  | .resolve accepted => (d.happen (.answer gate accepted)).1
  | .abandon => (d.happen (.abandon gate)).1
  | .keep => { d with parked := d.parked ++ [gate] }

/-! ## A release on the clock -/

/-- How far a release has come. -/
inductive Progress where
  | waiting
  | ended (note : Scene.Note Dialog)
  | cancelled

/-- A desk during a release. -/
structure Playing where
  desk : Desk
  /-- What has been written down, in order. -/
  log : List Moment
  progress : Progress
  /-- Milliseconds since the release began. -/
  now : Nat

namespace Playing

/-- The release looks at its gate. -/
def look (p : Playing) : Playing :=
  match p.progress with
  | .waiting =>
    match p.desk.happen .poll with
    | (_, .nothing) => p
    | (desk, note) => { p with desk, progress := .ended note }
  | _ => p

/-- The release is given up if it still waits. -/
def giveUp (p : Playing) : Playing :=
  match p.progress with
  | .waiting => { p with desk := (p.desk.happen .cancel).1, progress := .cancelled }
  | _ => p

/-- Nothing but time passes until a moment. -/
def elapse (p : Playing) (moment : Nat) : Playing :=
  { p with desk := (p.desk.happen (.pass (moment - p.now))).1, now := moment }

/-- When the release ends by itself at the latest. -/
def deadline (p : Playing) (cancelAfter : Nat) : Nat :=
  match p.desk.scene.controller.limit with
  | some limit => min limit cancelAfter
  | none => cancelAfter

/-- The release comes to its latest end: it looks once more and is given up if it waits even then. -/
def expire (p : Playing) (cancelAfter : Nat) : Playing :=
  let p := (p.elapse (max p.now (p.deadline cancelAfter))).look
  if cancelAfter ≤ p.now then p.giveUp else p

/-- Time passes until a moment. If the release's latest end comes no later, it ends there. -/
def advance (p : Playing) (moment cancelAfter : Nat) : Playing :=
  match p.progress with
  | .waiting =>
    if p.deadline cancelAfter ≤ moment then (p.expire cancelAfter).elapse moment else p.elapse moment
  | _ => p.elapse moment

/-- The person acts. -/
def perform (p : Playing) (a : UserAct) : Playing :=
  let (desk, note) := p.desk.act a
  { p with desk, log := p.log ++ [desk.observe (.user a note)] }

/-- The person's acts, one after another. Acts without a pause between them happen before the release looks
    at its gate again. -/
def play (p : Playing) (cancelAfter : Nat) : List Cue → Playing
  | [] => p.look
  | cue :: rest =>
    let p := if cue.after = 0 then p else p.look
    play ((p.advance (p.now + cue.after) cancelAfter).perform cue.act) cancelAfter rest

/-- The release up to its end, after everything the person does. -/
def finish (p : Playing) (cancelAfter : Nat) : Playing :=
  match p.progress with
  | .waiting => p.expire cancelAfter
  | _ => p

end Playing

/-- A release up to its first look at the gate, with the dialog it opens. -/
def beginRelease (d : Desk) : Playing :=
  match d.happen .release with
  | (d, .calling pending gate) =>
    let seen := d.observe (.acceptCallback pending.callback.tag pending.session.issue)
    let d := ((d.runDialog pending.callback gate).happen .callbackReturns).1
    ⟨d, [seen], .waiting, 0⟩
  | (d, .ending) =>
    let (d, note) := d.happen .settle
    ⟨d, [], .ended note, 0⟩
  | (d, note) => ⟨d, [], .ended note, 0⟩

/-- A release while the person acts. It is given up `cancelAfter` milliseconds after it has begun. -/
def release (d : Desk) (cues : List Cue) (cancelAfter : Nat) : Playing :=
  let p := d.beginRelease.look
  let p := if p.deadline cancelAfter = 0 then p.giveUp else p
  (p.play cancelAfter cues).finish cancelAfter

/-! ## Steps -/

/-- What can be asked of a desk. -/
inductive Step where
  | zone (container : String) (dialog : Option Dialog)
  | draggable (card : String) (allowed : Bool)
  | setLimit (limit : Option Nat)
  | setViewport (contentWidth offset : Option Float)
  | start (card : String) (left : Float)
  | move (left : Float)
  | dropOn (container : String)
  | release (cues : List Cue) (cancelAfter : Nat)
  | act (a : UserAct)

/-- How a step turns out: what the one who asked learns, unless the step was given up. -/
structure Turn where
  desk : Desk
  log : List Moment
  note : Option (Scene.Note Dialog)

/-- A step that only lets one thing happen. -/
def plain (d : Desk) (e : Scene.Event Dialog) : Turn :=
  let (desk, note) := d.happen e
  ⟨desk, [], some note⟩

/-- What happens when a desk is asked for something. -/
def step (d : Desk) : Step → Turn
  | .zone container dialog => d.plain (.registerZone container dialog)
  | .draggable card allowed => d.plain (.registerDraggable card allowed)
  | .setLimit limit => d.plain (.setLimit limit)
  | .setViewport contentWidth offset => d.plain (.setViewport contentWidth offset)
  | .start card left =>
    match d.happen (.start card left) with
    | (desk, .started issue) => ⟨desk, [desk.observe (.startCallback issue)], some (.started issue)⟩
    | (desk, note) => ⟨desk, [], some note⟩
  | .move left => d.plain (.move left)
  | .dropOn container => d.plain (.dropOn container)
  | .release cues cancelAfter =>
    let p := d.release cues cancelAfter
    ⟨p.desk, p.log, match p.progress with
      | .ended note => some note
      | _ => none⟩
  | .act a =>
    let (desk, note) := d.act a
    ⟨desk, [], some note⟩

/-- The turns of several steps. -/
def run (d : Desk) : List Step → List Turn
  | [] => []
  | s :: rest =>
    let turn := d.step s
    turn :: run turn.desk rest

end Desk

end Kanban
