import Kanban.Drag.InPlace
import Kanban.Proofs.Drag.Sessions
import Kanban.Proofs.Drag.Stages

/-!
# `Proofs.Drag.InPlace` — operations in place come to what they are in a scene

An operation of a controller in place changes one thing after another, and might stop between two of them. What
it leaves behind, stopped or not, is what a scene says that it does.

## Contents
- `run_session_of_some`, `run_lock_of_clean`, `run_holding_of_ok` and others: the steps of an operation.
- `start_inPlace`, `move_inPlace`, `dropOn_inPlace`, `release_inPlace`: every operation beside the one without
  steps.
- `Operation`, `Scene.bench`, `step_inPlace`: an operation in place beside the step of a scene.
-/

namespace Kanban

namespace Controller.InPlace

variable {κ α : Type} {b b' : Bench κ}

/-! ## Steps -/

@[simp] theorem run_throw (fault : Fault) (b : Bench κ) :
    (throw fault : InPlace κ α).run b = .error fault b := rfl

theorem run_session_of_some {x : Session} (h : b.controller.session = some x) :
    (session : InPlace κ Session).run b = .ok x b := by
  simp [session, h]

theorem run_session_of_none (h : b.controller.session = none) :
    (session : InPlace κ Session).run b = .error .noActiveDrag b := by
  simp [session, h]

theorem run_lock_of_clean (h : b.commons.poisoned = false) :
    (lock : InPlace κ Board).run b = .ok b.commons.board b := by
  simp [lock, Commons.lock_of_clean h]

theorem run_lock_of_poisoned (h : b.commons.poisoned = true) :
    (lock : InPlace κ Board).run b = .error .boardUnavailable b := by
  simp [lock, Commons.lock_of_poisoned h]

@[simp] theorem run_change (f : Controller κ → Controller κ) (b : Bench κ) :
    (change f).run b = .ok () { b with controller := f b.controller } := rfl

@[simp] theorem run_share (f : Commons → Commons) (b : Bench κ) :
    (share f).run b = .ok () { b with commons := f b.commons } := rfl

@[simp] theorem run_call (c : Call κ) (b : Bench κ) :
    (call c).run b = .ok () { b with calls := b.calls ++ [c] } := rfl

theorem run_holding (rest : InPlace κ α) (b : Bench κ) :
    (holding rest).run b =
      match rest.run b with
      | .ok a b' => .ok a b'
      | .error fault b' => .error fault { b' with commons := b'.commons.unhold } := rfl

/-! ## Dragging -/

theorem start_inPlace (b : Bench κ) (card : String) (left : Float) :
    (start card left).run b =
      match b.controller.start b.commons card left with
      | .error fault => .error fault b
      | .ok (c, s) => .ok () ⟨c, s, b.calls ++ [.started card ((c.session.map (·.issue)).getD .null)]⟩ := by
  cases hs : b.controller.session with
  | some x =>
    rw [start_of_session hs]
    simp [start, hs]
  | none =>
    cases hd : b.controller.draggables.contains card with
    | false =>
      rw [start_of_forbidden hs hd]
      simp [start, hs, hd]
    | true =>
      cases hp : b.commons.poisoned with
      | true =>
        rw [start_of_poisoned hs hd hp]
        simp [start, hs, hd, run_lock_of_poisoned hp]
      | false =>
        cases hb : b.commons.board.card? card with
        | none =>
          rw [start_of_nowhere hs hd hp hb]
          simp [start, hs, hd, run_lock_of_clean hp, hb]
        | some found =>
          rw [start_of_card hs hd hp hb]
          simp [start, hs, hd, run_lock_of_clean hp, hb]
          rfl

theorem move_inPlace (b : Bench κ) (left : Float) :
    (move left).run b =
      match b.controller.move left with
      | .error fault => .error fault b
      | .ok (c, offset) => .ok offset { b with controller := c } := by
  cases hs : b.controller.session with
  | none => simp [move, Controller.move, hs, run_session_of_none hs]
  | some x =>
    simp only [move, Controller.move, hs, EStateM.run_bind, run_session_of_some hs, run_change, EStateM.run_get]
    split <;> rfl

theorem dropOn_inPlace (b : Bench κ) (target : String) :
    (dropOn target).run b =
      match b.controller.dropOn b.commons target with
      | (c, .error fault) => .error fault { b with controller := c }
      | (c, .ok counts) => .ok counts { b with controller := c } := by
  cases hs : b.controller.session with
  | none =>
    rw [dropOn_none hs]
    simp [dropOn, run_session_of_none hs]
  | some x =>
    rw [dropOn_of_session hs]
    unfold dropResult
    by_cases hz : b.controller.zones.isRegistered target = true
    · rw [if_pos hz]
      cases hp : b.commons.poisoned with
      | true =>
        rw [dropCounts_of_poisoned hp]
        simp [dropOn, run_session_of_some hs, aim, hz, run_lock_of_poisoned, hp]
        rfl
      | false =>
        cases hk : b.commons.board.container? target with
        | none =>
          rw [dropCounts_of_nowhere hp hk]
          simp [dropOn, run_session_of_some hs, aim, hz, run_lock_of_clean, hp, hk]
          rfl
        | some k =>
          rw [dropCounts_of_container hp hk]
          simp only [dropOn, aim, EStateM.run_bind, run_session_of_some hs, run_change, EStateM.run_get, hz,
            if_true, run_lock_of_clean, hp, hk]
          cases k.droppable && decide (target ≠ x.origin) && b.commons.board.canAccept x.card target <;> rfl
    · rw [if_neg hz]
      simp [dropOn, run_session_of_some hs, aim, hz]
      rfl

/-! ## Releasing -/

theorem release_inPlace (b : Bench κ) :
    release.run b =
      match b.controller.release b.commons with
      | (c, s, .refused fault) => .error fault { b with controller := c, commons := s }
      | (c, s, .ending x ending) => .ok (.ending x ending) { b with controller := c, commons := s }
      | (c, s, .calling p) => .ok (.calling p) ⟨c, s, b.calls ++ [.asked p]⟩ := by
  cases hs : b.controller.session with
  | none =>
    rw [release_none hs]
    simp [release, run_session_of_none hs]
  | some x =>
    cases hp : b.commons.poisoned with
    | true =>
      rw [release_poisoned hs hp]
      simp [release, run_session_of_some hs, run_holding, run_lock_of_poisoned, hp]
    | false =>
      rw [release_ok hs hp]
      simp [release, run_session_of_some hs, run_holding, run_lock_of_clean, hp]
      cases ({ b.controller with phase := .idle, session := none } : Controller κ).judge b.commons.board x <;> rfl

/-- Nobody asks for the value. -/
theorem run_discard (x : InPlace κ α) (b : Bench κ) :
    (discard x).run b =
      match x.run b with
      | .ok _ b' => .ok () b'
      | .error fault b' => .error fault b' := by
  unfold discard EStateM.run
  simp only [Functor.mapConst, Function.comp_apply, Function.const, EStateM.map]
  cases x b <;> rfl

theorem discard_eq_error {x : InPlace κ α} {fault : Fault} :
    (discard x).run b = .error fault b' ↔ x.run b = .error fault b' := by
  rw [run_discard]
  cases x.run b <;> simp

end Controller.InPlace

/-! ## Operations in a scene -/

/-- An operation of a drag. -/
inductive Operation where
  | start (card : String) (left : Float)
  | move (left : Float)
  | dropOn (container : String)
  | release

namespace Operation

variable {κ : Type}

/-- The operation in place. -/
def inPlace : Operation → Controller.InPlace κ Unit
  | .start card left => Controller.InPlace.start card left
  | .move left => discard (Controller.InPlace.move left)
  | .dropOn container => discard (Controller.InPlace.dropOn container)
  | .release => discard Controller.InPlace.release

/-- The operation among all that happens in a scene. -/
def event : Operation → Scene.Event κ
  | .start card left => .start card left
  | .move left => .move left
  | .dropOn container => .dropOn container
  | .release => .release

end Operation

namespace Scene

variable {κ : Type} {w : Scene κ}

/-- The controller of a scene at work, after the callbacks that have been run. -/
def bench (w : Scene κ) (calls : List (Call κ)) : Bench κ := ⟨w.controller, w.commons, calls⟩

/-- The callback that is run in an event which has told something. -/
def Entry.runs : Entry κ → List (Call κ)
  | ⟨.start card _, .started issue⟩ => [.started card issue]
  | ⟨_, .calling p _⟩ => [.asked p]
  | _ => []

/-- What a scene does and tells is what an operation in place leaves behind, stopped or not. -/
def Performs (w : Scene κ) (o : Operation) (calls : List (Call κ)) : Prop :=
  match o.inPlace.run (w.bench calls) with
  | .error fault after => w.step o.event = (w.withController after.controller after.commons, .refused fault) ∧
      after.calls = calls
  | .ok () after => ∃ next note, w.step o.event = (next, note) ∧ (∀ fault, note ≠ .refused fault) ∧
      after = next.bench (calls ++ Entry.runs ⟨o.event, note⟩)

/-- **Every operation of a controller that is free** does in a scene what it does in place. -/
theorem step_inPlace (hf : w.stage = .free) (o : Operation) (calls : List (Call κ)) : w.Performs o calls := by
  unfold Performs
  cases o with
  | start card left =>
    have hstep : w.step (.start card left) = w.start card left := step_free hf _
    simp only [Operation.inPlace, Operation.event, Controller.InPlace.start_inPlace, hstep, bench, start]
    cases w.controller.start w.commons card left with
    | error fault => exact ⟨rfl, rfl⟩
    | ok result => exact ⟨_, _, rfl, fun _ h => (by cases h), rfl⟩
  | move left =>
    have hstep : w.step (.move left) = w.move left := step_free hf _
    simp only [Operation.inPlace, Operation.event, Controller.InPlace.run_discard,
      Controller.InPlace.move_inPlace, hstep, bench, move]
    cases w.controller.move left with
    | error fault => exact ⟨rfl, rfl⟩
    | ok result => exact ⟨_, _, rfl, fun _ h => (by cases h), by simp [Entry.runs, withController]⟩
  | dropOn container =>
    have hstep : w.step (.dropOn container) = w.dropOn container := step_free hf _
    simp only [Operation.inPlace, Operation.event, Controller.InPlace.run_discard,
      Controller.InPlace.dropOn_inPlace, hstep, bench, dropOn]
    obtain ⟨c, result⟩ := w.controller.dropOn w.commons container
    cases result with
    | error fault => exact ⟨rfl, rfl⟩
    | ok counts => exact ⟨_, _, rfl, fun _ h => (by cases h), by simp [Entry.runs, withController]⟩
  | release =>
    have hstep : w.step .release = w.release := step_free hf _
    simp only [Operation.inPlace, Operation.event, Controller.InPlace.run_discard,
      Controller.InPlace.release_inPlace, hstep, bench, release]
    obtain ⟨c, s, result⟩ := w.controller.release w.commons
    cases result with
    | refused fault => exact ⟨rfl, rfl⟩
    | ending x ending => exact ⟨_, _, rfl, fun _ h => (by cases h), by simp [Entry.runs, withController]⟩
    | calling p => exact ⟨_, _, rfl, fun _ h => (by cases h), by simp [Entry.runs, withController]⟩

end Scene

end Kanban
