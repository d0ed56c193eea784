import Kanban.Refresh.Refresher

/-!
# `Proofs.Refresh.Turns` — what happens in an event of a refresher

A turn of the background run is one of three things: a call of the sink is over, a tick is made, or a word
about shutting down is heard. Whatever holds of a refresher over time is shown from these three; nothing
else looks into the definition of a turn.

## Contents
- `turn_of_calling`, `turn_of_resting`, `turn_cases`, `turn_eq_none_iff`: what a turn is, and when there is
  none; `lt_wake_of_parked`, `parked_of_lt_wake`: how long there is none; `step_ends`: what ends the run.
- `tickNow_calls`, `turn_ticks`, `step_ticks`: when a tick calls the sink, and the ticks of an event.
-/

namespace Kanban.Refresher

variable {r r' : Refresher} {a : Activity} {tickFirst : Bool}

/-! ## Turns -/

theorem turn_of_calling {finish next : Nat} (hb : r.background = .calling finish next) :
    r.turn a tickFirst = if finish ≤ r.now then some { r with background := .resting next } else none := by
  rw [turn, hb]

theorem turn_of_resting {next : Nat} (hb : r.background = .resting next) :
    r.turn a tickFirst =
      if next ≤ r.now && (tickFirst || !r.shutdown.audible) then some (r.backgroundTick a)
      else if r.shutdown.audible then some r.hear else none := by
  rw [turn, hb]

/-- **A turn of the background run** ends a call of the sink, makes a tick that is due or hears what is to be
    heard. If there are both a tick and something to hear, the flag decides. -/
theorem turn_cases (h : r.turn a tickFirst = some r') :
    (∃ finish next, r.background = .calling finish next ∧ finish ≤ r.now ∧
      r' = { r with background := .resting next }) ∨
    (∃ next, r.background = .resting next ∧ next ≤ r.now ∧
      (tickFirst = true ∨ r.shutdown.audible = false) ∧ r' = r.backgroundTick a) ∨
    (∃ next, r.background = .resting next ∧ (r.now < next ∨ tickFirst = false) ∧
      r.shutdown.audible = true ∧ r' = r.hear) := by
  cases hb : r.background with
  | notStarted => rw [turn, hb] at h; cases h
  | ended => rw [turn, hb] at h; cases h
  | calling finish next =>
    rw [turn_of_calling hb] at h
    by_cases hover : finish ≤ r.now
    · rw [if_pos hover] at h
      cases h
      exact Or.inl ⟨finish, next, rfl, hover, rfl⟩
    · rw [if_neg hover] at h
      cases h
  | resting next =>
    rw [turn_of_resting hb] at h
    by_cases hdue : (decide (next ≤ r.now) && (tickFirst || !r.shutdown.audible)) = true
    · rw [if_pos hdue] at h
      cases h
      simp only [Bool.and_eq_true, decide_eq_true_eq, Bool.or_eq_true, Bool.not_eq_true'] at hdue
      exact Or.inr (Or.inl ⟨next, rfl, hdue.1, hdue.2, rfl⟩)
    · rw [if_neg hdue] at h
      by_cases haudible : r.shutdown.audible = true
      · rw [if_pos haudible] at h
        cases h
        simp only [haudible, Bool.not_true, Bool.or_false, Bool.and_eq_true, decide_eq_true_eq,
          not_and, Bool.not_eq_true] at hdue
        exact Or.inr (Or.inr ⟨next, rfl, (Nat.lt_or_ge r.now next).imp id hdue, haudible, rfl⟩)
      · rw [if_neg haudible] at h
        cases h

/-- There is no turn before the start and after the end, amid a call of the sink, and while the run rests
    with nothing to hear. -/
theorem turn_eq_none_iff : r.turn a tickFirst = none ↔
    r.background = .notStarted ∨ r.background = .ended ∨
      (∃ finish next, r.background = .calling finish next ∧ r.now < finish) ∨
      ∃ next, r.background = .resting next ∧ r.now < next ∧ r.shutdown.audible = false := by
  cases hb : r.background with
  | notStarted => simp [turn, hb]
  | ended => simp [turn, hb]
  | calling finish next => simp [turn_of_calling hb]
  | resting next =>
    rw [turn_of_resting hb]
    cases haudible : r.shutdown.audible with
    | true => by_cases hdue : next ≤ r.now <;> cases tickFirst <;> simp [hdue]
    | false => simp

/-- A run that has nothing to do goes on later, if it does so by itself. -/
theorem lt_wake_of_parked {w : Nat} (h : r.parked a = true) (hw : r.wake = some w) : r.now < w := by
  unfold wake at hw
  obtain hb | hb | ⟨finish, next, hb, hlater⟩ | ⟨next, hb, hlater, -⟩ :=
    turn_eq_none_iff.mp (Option.isNone_iff_eq_none.mp h)
  · rw [hb] at hw; cases hw
  · rw [hb] at hw; cases hw
  · rw [hb] at hw; cases hw; exact hlater
  · rw [hb] at hw; cases hw; exact hlater

/-- With nothing to hear, a run that goes on later has nothing to do. -/
theorem parked_of_lt_wake {w : Nat} (hw : r.wake = some w) (hlater : r.now < w)
    (hquiet : r.shutdown.audible = false) : r.parked a = true := by
  refine Option.isNone_iff_eq_none.mpr (turn_eq_none_iff.mpr ?_)
  unfold wake at hw
  cases hb : r.background with
  | notStarted => exact Or.inl rfl
  | ended => exact Or.inr (Or.inl rfl)
  | calling finish next =>
    rw [hb] at hw
    cases hw
    exact Or.inr (Or.inr (Or.inl ⟨_, next, rfl, hlater⟩))
  | resting next =>
    rw [hb] at hw
    cases hw
    exact Or.inr (Or.inr (Or.inr ⟨_, rfl, hlater, hquiet⟩))

theorem step_of_turn (h : r.turn a tickFirst = some r') : r.step a (.turn tickFirst) = r' := by
  show (r.turn a tickFirst).getD r = r'
  rw [h, Option.getD_some]

theorem step_of_no_turn (h : r.turn a tickFirst = none) : r.step a (.turn tickFirst) = r := by
  show (r.turn a tickFirst).getD r = r
  rw [h, Option.getD_none]

/-- **The background run ends** only in a turn in which it hears that it shall stop, or that nothing more will
    be said. -/
theorem step_ends {e : Event} (h : (r.step a e).background = .ended) :
    r.background = .ended ∨ (∃ tickFirst, e = .turn tickFirst) ∧
      (r.shutdown.unheard = some true ∨ r.shutdown.unheard = none ∧ r.shutdown.closed = true) := by
  cases e with
  | turn tickFirst =>
    cases ht : r.turn a tickFirst with
    | none =>
      rw [step_of_no_turn ht] at h
      exact Or.inl h
    | some r' =>
      rw [step_of_turn ht] at h
      obtain ⟨_, _, _, _, rfl⟩ | ⟨_, _, _, _, rfl⟩ | ⟨next, hb, _, haudible, rfl⟩ := turn_cases ht
      · cases h
      · -- After a tick the run rests or is in a call.
        simp only [backgroundTick, afterTick] at h
        split at h <;> cases h
      · refine Or.inr ⟨⟨tickFirst, rfl⟩, ?_⟩
        unfold hear at h
        cases hw : r.shutdown.unheard with
        | none =>
          simp only [Shutdown.audible, hw] at haudible
          exact Or.inr ⟨rfl, by simpa using haudible⟩
        | some word =>
          cases word with
          | true => exact Or.inl rfl
          | false =>
            rw [hw] at h
            rw [show r.background = .ended from h] at hb
            cases hb
  | pass ms =>
    unfold step at h
    dsimp only at h
    split at h <;> exact Or.inl h
  | start =>
    unfold step Refresher.start at h
    dsimp only at h
    split at h
    · cases h
    · exact Or.inl h
  | send value =>
    unfold step send at h
    dsimp only at h
    split at h <;> exact Or.inl h
  | tick => exact Or.inl h
  | close => exact Or.inl h
  | setFailing on => exact Or.inl h
  | setDelay ms => exact Or.inl h

/-! ## Ticks -/

/-- A tick calls the sink exactly if nothing is in progress. -/
theorem tickNow_calls (r : Refresher) (a : Activity) (background : Bool) :
    (r.tickNow a background).call.isSome = true ↔ a.count = 0 := by
  unfold tickNow Activity.suppressed
  by_cases h : 0 < a.count
  · simp [h, Nat.ne_of_gt h]
  · simp [Nat.eq_zero_of_not_pos h]

theorem hear_ticks (r : Refresher) : r.hear.ticks = r.ticks := by
  unfold hear
  split <;> rfl

/-- A turn of the background run is a tick, or adds none. -/
theorem turn_ticks (h : r.turn a tickFirst = some r') :
    r'.ticks = r.ticks ∨ r'.ticks = r.tickNow a true :: r.ticks := by
  obtain ⟨_, _, _, _, rfl⟩ | ⟨_, _, _, _, rfl⟩ | ⟨_, _, _, _, rfl⟩ := turn_cases h
  · exact Or.inl rfl
  · exact Or.inr rfl
  · exact Or.inl r.hear_ticks

/-- **An event adds at most one tick,** of the background run in its turn or of somebody who asks for it. -/
theorem step_ticks (r : Refresher) (a : Activity) (e : Event) :
    (r.step a e).ticks = r.ticks ∨
      (e = .tick ∧ (r.step a e).ticks = r.tickNow a false :: r.ticks) ∨
      ((∃ tickFirst, e = .turn tickFirst) ∧ (r.step a e).ticks = r.tickNow a true :: r.ticks) := by
  cases e with
  | turn tickFirst =>
    cases ht : r.turn a tickFirst with
    | none => exact Or.inl (by rw [step_of_no_turn ht])
    | some r' =>
      rw [step_of_turn ht]
      exact (turn_ticks ht).imp id fun h => Or.inr ⟨⟨tickFirst, rfl⟩, h⟩
  | tick => exact Or.inr (Or.inl ⟨rfl, rfl⟩)
  | pass ms =>
    refine Or.inl ?_
    unfold step
    dsimp only
    split <;> rfl
  | start =>
    refine Or.inl ?_
    unfold step Refresher.start
    dsimp only
    split <;> rfl
  | send value =>
    refine Or.inl ?_
    unfold step send
    dsimp only
    split <;> rfl
  | close => exact Or.inl rfl
  | setFailing on => exact Or.inl rfl
  | setDelay ms => exact Or.inl rfl

end Kanban.Refresher
