import Kanban.Proofs.Drag.Activity
import Kanban.Proofs.Refresh.Turns

/-!
# `Proofs.Refresh.LiveBoard` — refreshing beside a drag

A drag controller and a refresher know of each other only through a count. The controller holds a unit of it
from the start of a drag to the end of the release, and the refresher looks at it in every tick. So the sink
is never called while a card is dragged or a release waits, in whatever order the two and everybody else
act.

A tick is one event. Those who share a count take turns, and a turn goes to somebody else only where one of
them waits. A tick waits for nothing between its look at the count and its call of the sink: the first time
it may wait is inside the call, which is then under way. So nobody acts between the two. A call that takes
its time is an event of its own when it is over, and everybody acts meanwhile.

The scene and the refresher keep their own clocks, so neither has to be punctual.

## Contents
- `Refresher.callsSince`, `Refresher.count_of_callsSince`: the calls of the sink in an event.
- `LiveBoard`, its events, `LiveBoard.step` and `LiveBoard.run`.
- `LiveBoard.calls`: the calls of the sink in an event; `count_of_calls`: what they say about the count.
- `no_call_amid_drag`: the sink over whole runs.
-/

namespace Kanban

/-! ## Calls of the sink -/

namespace Refresher

variable {r r' : Refresher} {a : Activity}

/-- The calls of the sink that are new since an earlier state. -/
def callsSince (before after : Refresher) : List Tick :=
  (after.ticks.take (after.ticks.length - before.ticks.length)).filter (·.call.isSome)

theorem callsSince_of_same (h : r'.ticks = r.ticks) : callsSince r r' = [] := by
  simp [callsSince, h]

theorem callsSince_of_tick {t : Tick} (h : r'.ticks = t :: r.ticks) :
    callsSince r r' = if t.call.isSome then [t] else [] := by
  unfold callsSince
  rw [h]
  simp [List.filter_cons]

/-- Whatever happens to a refresher, a call of the sink means that nothing is in progress. -/
theorem count_of_callsSince {e : Event} (h : callsSince r (r.step a e) ≠ []) : a.count = 0 := by
  have htick : ∀ background, (r.step a e).ticks = r.tickNow a background :: r.ticks → a.count = 0 := by
    intro background ht
    rw [callsSince_of_tick ht] at h
    by_cases hcall : (r.tickNow a background).call.isSome = true
    · exact (tickNow_calls r a background).mp hcall
    · rw [if_neg hcall] at h
      exact absurd rfl h
  rcases step_ticks r a e with hsame | ⟨-, ht⟩ | ⟨-, ht⟩
  · exact absurd (callsSince_of_same hsame) h
  · exact htick false ht
  · exact htick true ht

end Refresher

/-! ## A scene and a refresher -/

/-- A scene and a refresher that looks at its count. -/
structure LiveBoard (κ : Type) where
  scene : Scene κ
  refresher : Refresher

namespace LiveBoard

variable {κ : Type}

/-- Something that happens on a live board. Others begin and end their interactions in the scene. -/
inductive Event (κ : Type) where
  | scene (e : Scene.Event κ)
  | refresher (e : Refresher.Event)

/-- The live board after an event. -/
def step (b : LiveBoard κ) : Event κ → LiveBoard κ
  | .scene e => { b with scene := (b.scene.step e).1 }
  | .refresher e => { b with refresher := b.refresher.step b.scene.commons.activity e }

/-- The live board after several events. -/
def run (b : LiveBoard κ) (es : List (Event κ)) : LiveBoard κ := es.foldl step b

/-- What several events are to the scene. -/
def sceneEvents (es : List (Event κ)) : List (Scene.Event κ) :=
  es.filterMap fun
    | .scene e => some e
    | .refresher _ => none

/-- The calls of the sink in an event. -/
def calls (b : LiveBoard κ) (e : Event κ) : List Tick := b.refresher.callsSince (b.step e).refresher

/-- A refresher changes nothing in the scene. -/
theorem run_scene (b : LiveBoard κ) (es : List (Event κ)) :
    (b.run es).scene = b.scene.run (sceneEvents es) := by
  induction es generalizing b with
  | nil => rfl
  | cons e rest ih =>
    show ((b.step e).run rest).scene = _
    rw [ih]
    cases e <;> rfl

/-- A call of the sink is an event of the refresher, at a moment when nothing is in progress. -/
theorem count_of_calls {b : LiveBoard κ} {e : Event κ} (h : b.calls e ≠ []) :
    b.scene.commons.activity.count = 0 ∧ (b.step e).scene = b.scene := by
  cases e with
  | scene e => exact absurd (Refresher.callsSince_of_same rfl) h
  | refresher e => exact ⟨Refresher.count_of_callsSince h, rfl⟩

/-- Whoever asks for a tick has the sink called exactly if nothing is in progress. -/
theorem calls_tick (b : LiveBoard κ) :
    b.calls (.refresher .tick) ≠ [] ↔ b.scene.commons.activity.count = 0 := by
  show Refresher.callsSince b.refresher (b.refresher.tick b.scene.commons.activity) ≠ [] ↔ _
  rw [Refresher.callsSince_of_tick rfl, ← Refresher.tickNow_calls b.refresher _ false]
  split <;> simp_all

/-! ## Whole runs -/

/-- **The sink is never called amid a drag.** As long as others never end more interactions than they have
    begun, a moment at which the sink is called is one with no session open and no release in progress, and
    the count is zero. Nor does the call change anything about that. And nothing else holds the sink back:
    a tick that somebody asks for calls it if no drag is under way and others have nothing in progress. -/
theorem no_call_amid_drag (c : Controller κ) (s : Commons) (r : Refresher) (es : List (Event κ))
    (hc : c.session = none) (hp : Scene.Paired s.activity.count (sceneEvents es)) :
    let b := (LiveBoard.mk (Scene.new c s) r).run es
    let others := s.activity.count + Scene.increments (sceneEvents es) - Scene.decrements (sceneEvents es)
    (∀ e, b.calls e ≠ [] →
      b.scene.controller.session = none ∧ b.scene.releasing = false ∧
        b.scene.commons.activity.count = 0 ∧ (b.step e).scene = b.scene) ∧
      (b.calls (.refresher .tick) ≠ [] ↔ b.scene.busy = false ∧ others = 0) := by
  intro b others
  have hcount : b.scene.commons.activity.count = others + if b.scene.busy then 1 else 0 := by
    have hcounted : Scene.Counted s.activity.count (Scene.new c s) := by
      show s.activity.count = s.activity.count + if (c.session.map (·.card)).isSome then 1 else 0
      rw [hc]
      rfl
    show ((LiveBoard.mk (Scene.new c s) r).run es).scene.commons.activity.count = _
    rw [run_scene]
    exact Scene.count_run Scene.quiet_new hcounted hp
  constructor
  · intro e he
    obtain ⟨hzero, hscene⟩ := count_of_calls he
    -- The unit of a drag under way would be in the count.
    have hbusy : b.scene.busy = false := by
      cases hb : b.scene.busy with
      | false => rfl
      | true => rw [hzero, hb, if_pos rfl] at hcount; omega
    unfold Scene.busy at hbusy
    rw [Bool.or_eq_false_iff] at hbusy
    exact ⟨by simpa using hbusy.1, hbusy.2, hzero, hscene⟩
  · rw [calls_tick, hcount]
    cases b.scene.busy <;> simp

/-- A drag while a refresher runs and somebody else is busy for a while. The second tick falls into the drag,
    and so does the interaction of the other one; the third tick is still to come. -/
def draggedBetween : List (Event Unit) :=
  [.scene (.edit (.addContainer "todo" true)), .scene (.edit (.addCard "todo" "c1" .null 100)),
    .scene (.registerDraggable "c1" true), .refresher .start, .refresher (.turn true), .scene (.start "c1" 0),
    .refresher (.pass 100), .refresher (.turn true), .scene .increment, .scene .release, .scene .settle,
    .scene .decrement, .refresher (.pass 100)]

/-- The third tick calls the sink, and by then everything is over. -/
theorem no_call_amid_drag_between :
    let c : Controller Unit := Controller.new ⟨⟨0, 500⟩, 500, 0⟩
    let s : Commons := Commons.ofBoard .empty
    let b := (LiveBoard.mk (Scene.new c s) (Refresher.new 100)).run draggedBetween
    let third : Event Unit := .refresher (.turn true)
    c.session = none ∧ Scene.Paired s.activity.count (sceneEvents draggedBetween) ∧ b.calls third ≠ [] ∧
      b.scene.controller.session = none ∧ b.scene.releasing = false ∧
        b.scene.commons.activity.count = 0 ∧ (b.step third).scene = b.scene := by
  intro c s b third
  have hcalls : b.calls third ≠ [] := by decide +kernel
  have hpaired : Scene.Paired s.activity.count (sceneEvents draggedBetween) := by decide
  exact ⟨rfl, hpaired, hcalls, (no_call_amid_drag c s _ draggedBetween rfl hpaired).1 third hcalls⟩

end LiveBoard
end Kanban
