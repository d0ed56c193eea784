import Kanban.Proofs.Drag.Activity
import Kanban.Proofs.Replay.Runner

/-!
# `Proofs.Replay.Activity` — the count of interactions, drag by drag and replay by replay

Whoever shares a count with a controller finds one unit more in it exactly while a drag is under way. The
same holds at every moment of a replay beside its refresher, and nothing is left of the replay once its
controller is gone.

## Contents
- `count_drags_replays`: the count at every moment of every run, of a scene and of a replay.
-/

namespace Kanban

open Scene (Paired increments decrements)

/-- **One unit for every drag.** As long as others never end more interactions than they have begun, the
    count is theirs plus one exactly while a session is open or a release is in progress, at every moment of
    every run of a controller. So it is at every moment of a replay, and once a replay is over and its
    controller gone the count is what it was before, whether its steps are played one thing at a time beside
    a refresher or all in one go. -/
theorem count_drags_replays :
    (∀ {κ : Type} (c : Controller κ) (s : Commons) (es : List (Scene.Event κ)), c.session = none →
      Paired s.activity.count es →
      let w := (Scene.new c s).run es
      w.commons.activity.count + decrements es =
        s.activity.count + increments es + if w.busy then 1 else 0) ∧
    (∀ (s : Scenario) (board : Board) (n : Nat) (choose : Nat → Choice) (k : Nat),
      let r := (Runner.begin s board n).after choose k
      r.player.replay.commons.activity.count = n + (if r.player.busy then 1 else 0) ∧
        (r.ended = true → r.player.replay.dismiss.activity.count = n)) ∧
    (∀ (s : Scenario) (board : Board) (n : Nat) (r : Replay) (results : List StepResult),
      (Replay.begin s board n).play 0 s.steps = some (r, results) → r.dismiss.activity.count = n) := by
  refine ⟨?_, ?_, ?_⟩
  · intro κ c s es hc hp w
    have hcounted : Scene.Counted s.activity.count (Scene.new c s) := by
      show s.activity.count = s.activity.count + if (c.session.map (·.card)).isSome then 1 else 0
      rw [hc]
      rfl
    have hcount : w.commons.activity.count =
        s.activity.count + increments es - decrements es + if w.busy then 1 else 0 :=
      Scene.count_run Scene.quiet_new hcounted hp
    -- The whole run is paired, too, so nothing is lost by subtracting.
    have hends := hp es.length
    rw [List.take_length] at hends
    omega
  · intro s board n choose k r
    have hbegin : Player.Counted n (Runner.begin s board n).player :=
      (Player.counted_iff rfl).mpr (Replay.counted_begin s board n)
    have hcounted : Player.Counted n r.player :=
      Runner.player_after (fun _ _ => Player.counted_turn) (fun _ => Player.counted_pass) hbegin choose k
    refine ⟨hcounted.1, fun he => ?_⟩
    -- The refresher has been told, so no release waits and at most a session is left to go.
    have hdone : r.player.done = true := by
      refine Runner.done_of_told (fun ht => by cases ht) choose k ?_
      unfold Runner.ended at he
      rw [Bool.and_eq_true] at he
      exact he.1
    exact Replay.count_dismiss ((Player.counted_iff (Player.done_iff.mp hdone).1).mp hcounted)
  · intro s board n r results hplay
    exact Replay.count_dismiss (Replay.play_counted hplay (Replay.counted_begin s board n))

/-- A board with one card. -/
def oneCard : Board :=
  ⟨[⟨"todo", ["c1"], true⟩], Dict.empty.insert "c1" ⟨"c1", .null, "todo", 100, false⟩⟩

/-- Somebody else is busy while a card is dragged, the board is poisoned when the card is released, and the
    card is dragged once more. -/
def interrupted : List (Scene.Event Unit) :=
  [.increment, .registerDraggable "c1" true, .start "c1" 0, .poison, .release, .heal, .start "c1" 0,
    .decrement]

/-- A card is taken up and never released. -/
def takenUp : Scenario where
  name := "triage"
  description := none
  confirmationTimeout := none
  refresh := none
  viewport := ⟨0, 500, 500, 0⟩
  columns := [⟨"todo", true, true, [⟨"c1", true, 100, .null⟩]⟩]
  steps := [.start "c1" 0]

/-- The count while a card is dragged a second time, and after a replay that never releases its card. -/
theorem count_drags_replays_interrupted :
    let c : Controller Unit := Controller.new ⟨⟨0, 500⟩, 500, 0⟩
    let s : Commons := ⟨oneCard, false, ⟨0⟩⟩
    let w := (Scene.new c s).run interrupted
    let r := (Runner.begin takenUp oneCard 2).after (fun _ => ⟨true, true⟩) 2
    c.session = none ∧ Paired s.activity.count interrupted ∧ w.busy = true ∧
      w.commons.activity.count + decrements interrupted =
        s.activity.count + increments interrupted + (if w.busy then 1 else 0) ∧
      r.ended = true ∧ r.player.busy = true ∧ r.player.replay.dismiss.activity.count = 2 ∧
      ∃ q results, (Replay.begin takenUp oneCard 2).play 0 takenUp.steps = some (q, results) ∧
        q.dismiss.activity.count = 2 := by
  intro c s w r
  have hended : r.ended = true := by decide +kernel
  have hplay : ((Replay.begin takenUp oneCard 2).play 0 takenUp.steps).isSome = true := by decide +kernel
  obtain ⟨⟨q, results⟩, hq⟩ := Option.isSome_iff_exists.mp hplay
  exact ⟨rfl, by decide, by decide +kernel, count_drags_replays.1 c s interrupted rfl (by decide), hended,
    by decide +kernel, (count_drags_replays.2.1 _ _ 2 _ 2).2 hended, q, results, hq,
    count_drags_replays.2.2 _ _ 2 q results hq⟩

end Kanban
