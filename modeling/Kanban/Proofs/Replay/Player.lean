import Kanban.Proofs.Replay.Steps
import Kanban.Proofs.Scroll.Range
import Kanban.Replay.Runner

/-!
# `Proofs.Replay.Player` — the steps one thing at a time and all at once

`Replay.play` plays all steps in one go and `Player.turn` one thing at a time, with time passing between. A
player is on its way to the same end as all the steps in one go, whatever time passes in between, as long as
no more passes than it has left to wait.

## Contents
- `Player.Turn`: what one turn of the steps does, once and for all.
- `Player.outcome`: what the steps come to in the end; `outcome_turn`, `outcome_pass`.
- `Player.ahead`: how many turns are left; `ahead_turn`.
- `Player.clock`: the time that the steps account for.
- `Player.Counted`: the count of interactions while the steps are on their way.
-/

namespace Kanban

/-! ## One turn -/

namespace Player

variable {p p' : Player}

/-- **What one turn of the steps does.** -/
inductive Turn (p : Player) : Player → Prop where
  /-- The release that waits has its confirmation. -/
  | concluded {w c} (hw : p.wait = some w) (hv : w.gate.verdict p.replay.controller.limit w.waited = some c) :
      Turn p (p.record (p.replay.conclude w.pending c w.waited).1 (p.replay.conclude w.pending c w.waited).2)
  /-- The next step is over at once. -/
  | ended {s rest r result} (hw : p.wait = none) (hr : p.rest = s :: rest)
      (ha : p.replay.attempt s = (r, .ended result)) : Turn p ({ p with rest }.record r result)
  /-- The next step is a release that waits. -/
  | begun {s rest r pending gate} (hw : p.wait = none) (hr : p.rest = s :: rest)
      (ha : p.replay.attempt s = (r, .waiting pending gate)) :
      Turn p { p with replay := r, wait := some ⟨pending, gate, 0⟩, rest }

theorem turn_eq_some (h : p.turn = some p') : p.Turn p' := by
  unfold turn at h
  cases hw : p.wait with
  | some w =>
    simp only [hw] at h
    cases hv : w.gate.verdict p.replay.controller.limit w.waited with
    | none => simp only [hv] at h; cases h
    | some c => simp only [hv] at h; cases h; exact .concluded hw hv
  | none =>
    simp only [hw] at h
    cases hr : p.rest with
    | nil => simp only [hr] at h; cases h
    | cons s rest =>
      simp only [hr] at h
      rcases ha : p.replay.attempt s with ⟨r, progress⟩
      cases progress with
      | ended result => simp only [ha] at h; cases h; exact .ended hw hr ha
      | waiting pending gate => simp only [ha] at h; cases h; exact .begun hw hr ha

/-- Steps that have no turn are over, or wait without a verdict. -/
theorem turn_eq_none (h : p.turn = none) :
    p.done = true ∨
      ∃ w, p.wait = some w ∧ w.gate.verdict p.replay.controller.limit w.waited = none := by
  unfold turn at h
  cases hw : p.wait with
  | some w =>
    simp only [hw] at h
    cases hv : w.gate.verdict p.replay.controller.limit w.waited with
    | none => exact Or.inr ⟨w, rfl, hv⟩
    | some c => simp only [hv] at h; cases h
  | none =>
    simp only [hw] at h
    cases hr : p.rest with
    | nil => exact Or.inl (by simp [done, hw, hr])
    | cons s rest =>
      simp only [hr] at h
      rcases ha : p.replay.attempt s with ⟨r, progress⟩
      cases progress with
      | ended result => simp only [ha] at h; cases h
      | waiting pending gate => simp only [ha] at h; cases h

theorem done_iff : p.done = true ↔ p.wait = none ∧ p.rest = [] := by
  simp [done]

theorem turn_of_done (h : p.done = true) : p.turn = none := by
  obtain ⟨hw, hr⟩ := done_iff.mp h
  simp [turn, hw, hr]

/-- Time only matters to a release that waits. -/
theorem pass_of_none (h : p.wait = none) (ms : Nat) : p.pass ms = p := by
  obtain ⟨replay, wait, rest, results⟩ := p
  cases h
  rfl

/-- There is no step that the steps crash on. -/
theorem crashes_eq_false (p : Player) : p.crashes = false := by
  unfold crashes
  split
  · rw [Scroll.ordered_float]
    rfl
  · rfl

/-! ## All at once -/

/-- What all steps that have not been begun come to, played in one go. -/
def playOut (p : Player) : Option (Replay × List StepResult) :=
  (p.replay.play p.results.length p.rest).map fun (r, later) => (r, p.results ++ later)

/-- How a wait ends if nothing more comes to its gate. -/
def waitedOut (p : Player) (w : Wait) : Option (Replay × StepResult) :=
  match Exchange.waitOut w.gate none p.replay.controller.limit w.waited with
  | ⟨some c, _, waited⟩ => some (p.replay.conclude w.pending c waited)
  | ⟨none, _, _⟩ => none

/-- What the step at hand and all steps after it come to; nothing if one of them never ends. -/
def outcome (p : Player) : Option (Replay × List StepResult) :=
  match p.wait with
  | none => p.playOut
  | some w => (p.waitedOut w).bind fun (r, result) => (p.record r result).playOut

theorem outcome_of_none (h : p.wait = none) : p.outcome = p.playOut := by
  simp only [outcome, h]

theorem outcome_of_wait {w : Wait} (h : p.wait = some w) :
    p.outcome = (p.waitedOut w).bind fun (r, result) => (p.record r result).playOut := by
  simp only [outcome, h]

theorem playOut_of_done (h : p.rest = []) : p.playOut = some (p.replay, p.results) := by
  simp [playOut, h, Replay.play]

/-- Playing one step and then the others. -/
theorem playOut_cons {s : ScenarioStep} {rest : List ScenarioStep} (h : p.rest = s :: rest) :
    p.playOut =
      (p.replay.step s).bind fun (r, result) => ({ p with rest }.record r result).playOut := by
  unfold playOut
  rw [h, Replay.play]
  cases p.replay.step s with
  | none => rfl
  | some step =>
    obtain ⟨r, result⟩ := step
    show (Option.map _ (Option.bind ((r.say _).play _ rest) fun _ => _) : Option _) = _
    show _ = Option.map _ ((r.say _).play (p.results ++ [result]).length rest)
    rw [List.length_append]
    cases (r.say (Replay.remark p.results.length result)).play (p.results.length + 1) rest with
    | none => rfl
    | some later => simp [record]

/-- **Taking turns leads to the same end** as playing all steps in one go. -/
theorem outcome_turn (h : p.turn = some p') : p'.outcome = p.outcome := by
  cases turn_eq_some h with
  | concluded hw hv =>
    rw [outcome_of_none rfl, outcome_of_wait hw, waitedOut, Exchange.waitOut_of_verdict hv]
    rfl
  | ended hw hr ha =>
    rw [outcome_of_none rfl, outcome_of_none hw, playOut_cons hr, Replay.step, ha]
    rfl
  | @begun s rest r pending gate hw hr ha =>
    rw [outcome_of_wait rfl, outcome_of_none hw, playOut_cons hr, Replay.step, ha]
    show Option.bind (r.await pending gate) _ = Option.bind (r.await pending gate) _
    rfl

/-- Without a limit a wait without a verdict never ends. -/
theorem waitedOut_unlimited {w : Wait} (hv : w.gate.verdict p.replay.controller.limit w.waited = none)
    (hl : p.replay.controller.limit = none) : p.waitedOut w = none := by
  rw [hl] at hv
  rw [waitedOut, hl, Exchange.waitOut_unlimited hv]

/-- Within its limit a wait ends as it would have ended before. -/
theorem waitedOut_later {w : Wait} {l ms : Nat}
    (hv : w.gate.verdict p.replay.controller.limit w.waited = none)
    (hl : p.replay.controller.limit = some l) (hms : w.waited + ms ≤ l) :
    p.waitedOut { w with waited := w.waited + ms } = p.waitedOut w := by
  rw [hl] at hv
  rw [waitedOut, waitedOut, hl, Exchange.waitOut_later hv hms]

/-- **So does waiting,** as long as no more time passes than is left of the limit. -/
theorem outcome_pass {ms : Nat} (h : p.turn = none) (hms : ∀ left, p.wake = some left → ms ≤ left) :
    (p.pass ms).outcome = p.outcome := by
  cases hw : p.wait with
  | none =>
    rw [pass_of_none hw]
  | some w =>
    -- The player is not done while a release waits, so there is no verdict yet.
    have hv : w.gate.verdict p.replay.controller.limit w.waited = none := by
      rcases turn_eq_none h with hdone | ⟨w', hw', hv⟩
      · rw [(done_iff.mp hdone).1] at hw; cases hw
      · rw [hw] at hw'; cases hw'; exact hv
    have hpass : (p.pass ms).wait = some { w with waited := w.waited + ms } := by simp [pass, hw]
    rw [outcome_of_wait hpass, outcome_of_wait hw]
    have hwaited : (p.pass ms).waitedOut { w with waited := w.waited + ms } = p.waitedOut w := by
      cases hl : p.replay.controller.limit with
      | none =>
        have hlater : w.gate.verdict none (w.waited + ms) = none :=
          Gate.verdict_unlimited (Gate.reply_of_verdict hv)
        rw [waitedOut_unlimited hv hl]
        exact waitedOut_unlimited (p := p.pass ms) (by rw [← hlater, ← hl]; rfl) hl
      | some l =>
        have hlt : w.waited < l := Gate.lt_of_verdict (hl ▸ hv)
        have hle := hms (l - w.waited) (by simp [wake, hw, hl])
        exact waitedOut_later hv hl (by omega)
    rw [hwaited]
    rfl

/-- A player that is done has come to what it is on its way to. -/
theorem outcome_of_done (h : p.done = true) : p.outcome = some (p.replay, p.results) := by
  obtain ⟨hw, hr⟩ := done_iff.mp h
  rw [outcome_of_none hw, playOut_of_done hr]

/-- Without a limit a wait without a verdict leads nowhere. -/
theorem outcome_unlimited {w : Wait} (hw : p.wait = some w)
    (hv : w.gate.verdict p.replay.controller.limit w.waited = none)
    (hl : p.replay.controller.limit = none) : p.outcome = none := by
  rw [outcome_of_wait hw, waitedOut_unlimited hv hl]
  rfl

/-! ## What is left -/

/-- How many turns the steps have left at most. -/
def ahead (p : Player) : Nat := 2 * p.rest.length + if p.wait.isSome then 1 else 0

theorem ahead_turn (h : p.turn = some p') : p'.ahead < p.ahead := by
  cases turn_eq_some h with
  | concluded hw hv => simp [ahead, record, hw]
  | ended hw hr ha =>
    simp only [ahead, record, hw, hr, List.length_cons, Option.isSome_none, Bool.false_eq_true, if_false]
    omega
  | begun hw hr ha =>
    simp only [ahead, hw, hr, List.length_cons, Option.isSome_none, Option.isSome_some,
      Bool.false_eq_true, if_false, if_true]
    omega

theorem ahead_pass (p : Player) (ms : Nat) : (p.pass ms).ahead = p.ahead := by
  simp [ahead, pass]

/-! ## The clock -/

/-- For how many milliseconds the step at hand has waited. -/
def waiting (p : Player) : Nat := (p.wait.map (·.waited)).getD 0

/-- The milliseconds that the steps account for. -/
def clock (p : Player) : Nat := p.replay.elapsed + p.waiting

/-- A turn takes no time. -/
theorem clock_turn (h : p.turn = some p') : p'.clock = p.clock := by
  cases turn_eq_some h with
  | @concluded w c hw hv =>
    show (p.replay.conclude w.pending c w.waited).1.elapsed + 0 = p.clock
    rw [Replay.conclude_elapsed, clock, waiting, hw]
    rfl
  | @ended s rest r result hw hr ha =>
    have hacc := Replay.attempt_account p.replay s
    rw [ha] at hacc
    show r.elapsed + 0 = p.clock
    rw [hacc.elapsed, clock, waiting, hw]
    rfl
  | @begun s rest r pending gate hw hr ha =>
    have hacc := Replay.attempt_account p.replay s
    rw [ha] at hacc
    show r.elapsed + 0 = p.clock
    rw [hacc.elapsed, clock, waiting, hw]
    rfl

theorem clock_pass {w : Wait} (hw : p.wait = some w) (ms : Nat) : (p.pass ms).clock = p.clock + ms := by
  simp only [clock, waiting, pass, hw, Option.map_some, Option.getD_some]
  omega

/-! ## The count -/

/-- Whether a session is open or a release waits. -/
def busy (p : Player) : Bool := p.replay.controller.session.isSome || p.wait.isSome

/-- The count is what others have in progress and one unit while a drag is under way; a release that waits
    has taken the session. -/
def Counted (n : Nat) (p : Player) : Prop :=
  p.replay.commons.activity.count = n + (if p.busy then 1 else 0) ∧
    (p.wait.isSome = true → p.replay.controller.session = none)

/-- Between two steps the books of the player are those of the replay. -/
theorem counted_iff {n : Nat} (h : p.wait = none) : Counted n p ↔ Replay.Counted n p.replay := by
  rw [Counted, busy, h]
  simp [Replay.Counted]

/-- **A turn keeps the books.** -/
theorem counted_turn {n : Nat} (h : p.turn = some p') (hc : Counted n p) : Counted n p' := by
  obtain ⟨hcount, hsession⟩ := hc
  cases turn_eq_some h with
  | @concluded w c hw hv =>
    have hnone := hsession (by rw [hw]; rfl)
    refine ⟨?_, fun hwait => by cases hwait⟩
    show (p.replay.conclude w.pending c w.waited).1.commons.activity.count =
      n + if (p.replay.controller.session.isSome || false) then 1 else 0
    rw [Replay.conclude_count, hcount, busy, hnone, hw]
    rfl
  | @ended s rest r result hw hr ha =>
    have hacc := Replay.attempt_account p.replay s
    rw [ha] at hacc
    exact (counted_iff rfl).mpr (hacc.counted ((counted_iff hw).mp ⟨hcount, hsession⟩))
  | @begun s rest r pending gate hw hr ha =>
    -- The unit goes from the session to the wait.
    have hacc := Replay.attempt_account p.replay s
    rw [ha] at hacc
    obtain ⟨hs, hcount'⟩ := hacc.held ((counted_iff hw).mp ⟨hcount, hsession⟩)
    refine ⟨?_, fun _ => hs⟩
    show r.commons.activity.count = n + if (r.controller.session.isSome || true) then 1 else 0
    rw [hcount', Bool.or_true]
    rfl

theorem counted_pass {n : Nat} (ms : Nat) (hc : Counted n p) : Counted n (p.pass ms) := by
  obtain ⟨hcount, hsession⟩ := hc
  have hwait : (p.pass ms).wait.isSome = p.wait.isSome := by simp [pass]
  refine ⟨?_, fun h => hsession (hwait ▸ h)⟩
  show p.replay.commons.activity.count = n + if (p.pass ms).busy then 1 else 0
  rw [hcount, busy, busy, hwait]
  rfl

end Player
end Kanban
