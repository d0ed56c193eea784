import Kanban.Proofs.Drag.Steps

/-!
# `Proofs.Drag.Activity` — one unit of activity for every drag

A controller takes a unit of activity when a drag starts and gives it back when the drag is over, however it
is over. So as long as others keep their own books in order, the count is theirs plus one while a session is
open or a release is in progress, at every moment of every run.

## Contents
- `Scene.busy`: a session is open or a release is in progress.
- `Scene.increments`, `Scene.decrements`, `Scene.Paired`: what others do to the count.
- `Scene.Counted` and `counted_step`: the invariant and one step.
- `count_run`: a whole run.
-/

namespace Kanban.Scene

variable {κ : Type} {w : Scene κ}

/-- Whether a drag is under way. -/
def busy (w : Scene κ) : Bool := w.controller.session.isSome || w.releasing

/-- A drag is under way exactly if a card is in hand. -/
theorem busy_eq (hq : w.Quiet) : w.busy = w.inHand.isSome := by
  unfold busy releasing inHand
  cases hst : w.stage with
  | free => simp
  | ending session ending => simp
  | calling p gate => simp
  | waiting p gate waited => simp
  | gone => simp [hq (by simp [isFree, hst])]

/-! ## What others do to the count -/

/-- Whether an event is somebody else beginning an interaction. -/
def Event.isIncrement : Event κ → Bool
  | .increment => true
  | _ => false

/-- Whether an event is somebody else ending an interaction. -/
def Event.isDecrement : Event κ → Bool
  | .decrement => true
  | _ => false

/-- How many interactions others begin. -/
def increments (es : List (Event κ)) : Nat := es.countP Event.isIncrement

/-- How many interactions others end. -/
def decrements (es : List (Event κ)) : Nat := es.countP Event.isDecrement

/-- With `n` interactions of others in progress at first, others never end more than they have begun. -/
def Paired (n : Nat) (es : List (Event κ)) : Prop :=
  ∀ k, decrements (es.take k) ≤ n + increments (es.take k)

theorem paired_iff {n : Nat} {es : List (Event κ)} :
    Paired n es ↔ ∀ k ∈ List.range (es.length + 1), decrements (es.take k) ≤ n + increments (es.take k) := by
  constructor
  · intro h k _
    exact h k
  · intro h k
    by_cases hk : k < es.length + 1
    · exact h k (List.mem_range.mpr hk)
    · -- Beyond its end a run has no more prefixes than the run itself.
      have hlast := h es.length (List.mem_range.mpr (by omega))
      rw [List.take_length] at hlast
      rwa [List.take_of_length_le (by omega)]

instance (n : Nat) (es : List (Event κ)) : Decidable (Paired n es) := decidable_of_iff' _ paired_iff

/-- The interactions of others after one more event. -/
def Event.others (n : Nat) : Event κ → Nat
  | .increment => n + 1
  | .decrement => n - 1
  | _ => n

theorem increments_cons (e : Event κ) (es : List (Event κ)) :
    increments (e :: es) = increments es + if e.isIncrement then 1 else 0 := List.countP_cons ..

theorem decrements_cons (e : Event κ) (es : List (Event κ)) :
    decrements (e :: es) = decrements es + if e.isDecrement then 1 else 0 := List.countP_cons ..

/-- The first event of a paired run is allowed, and the rest of the run is paired after it. -/
theorem Paired.cons {n : Nat} {e : Event κ} {es : List (Event κ)} (h : Paired n (e :: es)) :
    (e.isDecrement = true → 0 < n) ∧ Paired (e.others n) es := by
  have hfirst : e.isDecrement = true → 0 < n := by
    intro hd
    have h1 := h 1
    cases e with
    | decrement =>
      have hone : 1 ≤ n := by simpa [decrements, increments, Event.isDecrement, Event.isIncrement] using h1
      exact hone
    | _ => cases hd
  refine ⟨hfirst, fun k => ?_⟩
  have hk := h (k + 1)
  rw [List.take_succ_cons, decrements_cons, increments_cons] at hk
  cases e <;> simp_all [Event.isDecrement, Event.isIncrement, Event.others] <;> omega

/-- What others have in progress at the end of a run, from the first event on. -/
theorem others_cons {n : Nat} {e : Event κ} {es : List (Event κ)} (h : e.isDecrement = true → 0 < n) :
    n + increments (e :: es) - decrements (e :: es) = e.others n + increments es - decrements es := by
  rw [increments_cons, decrements_cons]
  cases e <;> simp_all [Event.isDecrement, Event.isIncrement, Event.others] <;> omega

/-! ## The invariant -/

/-- The count is what others have in progress and one unit for the card in hand. -/
def Counted (n : Nat) (w : Scene κ) : Prop :=
  w.commons.activity.count = n + if w.inHand.isSome then 1 else 0

/-- What others do to the count is what they do to their own number. -/
theorem amid_count {n u : Nat} {e : Event κ} {s : Commons} (hd : e.isDecrement = true → 0 < n)
    (h : s.activity.count = n + u) : (e.amid s).activity.count = e.others n + u := by
  cases e with
  | increment => show s.activity.count + 1 = n + 1 + u; omega
  | decrement =>
    have hn : 0 < n := hd rfl
    show s.activity.count - 1 = n - 1 + u
    omega
  | _ => exact h

/-- Whoever gives the unit of the card in hand back leaves the others' count. -/
theorem counted_back {n : Nat} {card : String} (hh : w.inHand = some card) (h : Counted n w) :
    w.commons.activity.count - 1 = n := by
  unfold Counted at h
  rw [h, hh]
  rfl

/-- **One step** keeps the books. A unit is given back on every way out of a drag, and since it was counted
    the count does not stop at zero. -/
theorem counted_step {n : Nat} {e : Event κ} (hq : w.Quiet) (hd : e.isDecrement = true → 0 < n)
    (h : Counted n w) : Counted (e.others n) (w.step e).1 := by
  obtain ⟨_, heffect⟩ := step_effect hq e
  show (w.step e).1.commons.activity.count = e.others n + if (w.step e).1.inHand.isSome then 1 else 0
  generalize (w.step e).1.inHand = hand, (w.step e).1.commons = s at heffect ⊢
  cases heffect with
  | kept hc hg => exact amid_count hd h
  | takenUp hn hp hb =>
    unfold Counted at h
    rw [hn] at h
    show w.commons.activity.count + 1 = n + 1
    rw [h]
    rfl
  -- The five ways out of a drag: all of them give the unit back, and three do so on any board.
  | refused hh hp => exact counted_back hh h
  | settled hh hc =>
    rw [Commons.letGo_count]
    exact counted_back hh h
  | concluded hh hc =>
    rw [Commons.letGo_count]
    exact counted_back hh h
  | cancelled hh hg => exact counted_back hh h
  | dismissed hh hg => exact counted_back hh h

/-- **A whole run** keeps the books. -/
theorem count_run {n : Nat} {es : List (Event κ)} (hq : w.Quiet) (h : Counted n w) (hp : Paired n es) :
    (w.run es).commons.activity.count =
      n + increments es - decrements es + if (w.run es).busy then 1 else 0 := by
  induction es generalizing w n with
  | nil =>
    rw [run_nil, busy_eq hq, h]
    rfl
  | cons e rest ih =>
    -- The others' number moves on with every event, so the invariant is kept for the number after it.
    obtain ⟨hd, hrest⟩ := hp.cons
    rw [run_cons, others_cons hd]
    exact ih (quiet_step hq e) (counted_step hq hd h) hrest

end Kanban.Scene
