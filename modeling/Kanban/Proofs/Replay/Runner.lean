import Kanban.Proofs.Refresh.Turns
import Kanban.Proofs.Replay.Player

/-!
# `Proofs.Replay.Runner` — steps and refresher side by side

The refresher never changes what the steps do, and whoever goes on first, the run as a whole comes to its
end. What goes down with everything that happens is the triple of what the steps have left to do, the time
that a release still waits, and what the refresher has left to do at the moment.

## Contents
- `Runner.Move` and `move_cases`: what can happen in a run, once and for all.
- `player_after`: what turns and time keep about the steps, a run keeps.
- `Refresher.Plain`, `Runner.Sound`: the invariant; `sound_begin`, `sound_move`, `sound_after`.
- `move_decreases`, `ends`: every run of steps that come to an end is over some day.
- `report_after`, `now_after_le`: what a run comes to, and when.
- `interval_of_report`: nothing comes of a run whose refresher cannot be started.
-/

namespace Kanban

namespace Runner

variable {r r' : Runner} {c : Choice}

/-! ## What can happen -/

/-- **What can happen in a run.** -/
inductive Move (r : Runner) : Runner → Prop where
  /-- Nothing: the run is over or has crashed. -/
  | halted (h : (r.ended || r.crashed) = true) : Move r r
  /-- The steps crash. -/
  | stepsCrash (h : r.player.crashes = true) : Move r { r with crashed := true }
  /-- The refresher crashes. -/
  | refresherCrash {f} (hf : r.refresher = some f) (hi : f.schedule.interval = 0) :
      Move r { r with crashed := true }
  | played {player} (h : r.player.turn = some player) : Move r { r with player }
  /-- The refresher is told to stop. -/
  | told (hd : r.player.done = true) (ht : r.told = false) :
      Move r { r with told := true, refresher := r.refresher.map (·.send true) }
  | started {f} (hf : r.refresher = some f) (hb : f.background = .notStarted)
      (hi : f.schedule.interval ≠ 0) :
      Move r { r with refresher := some f.start }
  | refreshed {f f' tickFirst} (hf : r.refresher = some f)
      (h : f.turn r.player.replay.commons.activity tickFirst = some f') :
      Move r { r with refresher := some f' }
  /-- Time passes, as neither can go on. -/
  | passed {ms tickFirst} (ho : r.ended = false) (hs : r.stepsTurn = none)
      (hr : r.refresherTurn tickFirst = none) (hw : r.wake = some ms) : Move r (r.pass ms)
  /-- Nothing will ever happen. -/
  | stuck {tickFirst} (ho : r.ended = false) (hs : r.stepsTurn = none)
      (hr : r.refresherTurn tickFirst = none) (hw : r.wake = none) : Move r r

theorem stepsTurn_cases (h : r.stepsTurn = some r') : r.Move r' := by
  unfold stepsTurn at h
  by_cases hcrash : r.player.crashes = true
  · rw [if_pos hcrash] at h
    cases h
    exact .stepsCrash hcrash
  · rw [if_neg hcrash] at h
    cases ht : r.player.turn with
    | some player =>
      rw [ht] at h
      cases h
      exact .played ht
    | none =>
      rw [ht] at h
      dsimp only at h
      by_cases hd : (r.player.done && !r.told) = true
      · rw [if_pos hd] at h
        cases h
        simp only [Bool.and_eq_true, Bool.not_eq_true'] at hd
        exact .told hd.1 hd.2
      · rw [if_neg hd] at h
        cases h

theorem refresherTurn_cases {tickFirst : Bool} (h : r.refresherTurn tickFirst = some r') : r.Move r' := by
  unfold refresherTurn at h
  cases hf : r.refresher with
  | none => rw [hf] at h; cases h
  | some f =>
    rw [hf] at h
    dsimp only at h
    by_cases hb : f.background = .notStarted
    · rw [if_pos hb] at h
      by_cases hi : f.schedule.interval = 0
      · rw [if_pos hi] at h
        cases h
        rw [← hf]
        exact .refresherCrash hf hi
      · rw [if_neg hi] at h
        cases h
        exact .started hf hb hi
    · rw [if_neg hb] at h
      cases ht : f.turn r.player.replay.commons.activity tickFirst with
      | none => rw [ht] at h; cases h
      | some f' =>
        rw [ht] at h
        cases h
        exact .refreshed hf ht

/-- If neither of the two has a turn there is none. -/
theorem turn_eq_none (h : r.turn c = none) : r.stepsTurn = none ∧ r.refresherTurn c.tick = none := by
  unfold turn at h
  by_cases hc : c.steps = true
  · rw [if_pos hc] at h
    exact Option.or_eq_none_iff.mp h
  · rw [if_neg hc] at h
    exact (Option.or_eq_none_iff.mp h).symm

theorem turn_cases (h : r.turn c = some r') : r.Move r' := by
  unfold turn at h
  by_cases hc : c.steps = true
  · rw [if_pos hc] at h
    rcases Option.or_eq_some_iff.mp h with hs | ⟨_, hr⟩
    · exact stepsTurn_cases hs
    · exact refresherTurn_cases hr
  · rw [if_neg hc] at h
    rcases Option.or_eq_some_iff.mp h with hr | ⟨_, hs⟩
    · exact refresherTurn_cases hr
    · exact stepsTurn_cases hs

/-- **The next thing that happens** is one of these. -/
theorem move_cases (r : Runner) (c : Choice) : r.Move (r.move c) := by
  unfold move
  by_cases hover : (r.ended || r.crashed) = true
  · rw [if_pos hover]
    exact .halted hover
  · rw [if_neg hover]
    cases ht : r.turn c with
    | some next => exact turn_cases ht
    | none =>
      obtain ⟨hs, hr⟩ := turn_eq_none ht
      have hended : r.ended = false := by
        simp only [Bool.or_eq_true, not_or, Bool.not_eq_true] at hover
        exact hover.1
      cases hw : r.wake with
      | some ms => exact .passed hended hs hr hw
      | none => exact .stuck hended hs hr hw

/-! ## A whole run -/

@[simp] theorem after_zero (r : Runner) (choose : Nat → Choice) : r.after choose 0 = r := rfl

theorem after_succ (r : Runner) (choose : Nat → Choice) (k : Nat) :
    r.after choose (k + 1) = (r.after choose k).move (choose k) := rfl

/-- The first thing that happens, and then all the others. -/
theorem after_succ' (r : Runner) (choose : Nat → Choice) (k : Nat) :
    r.after choose (k + 1) = (r.move (choose 0)).after (fun i => choose (i + 1)) k := by
  induction k with
  | zero => rfl
  | succ k ih => rw [after_succ, ih, after_succ]

theorem move_of_over (h : (r.ended || r.crashed) = true) (c : Choice) : r.move c = r := by
  rw [move, if_pos h]

/-- A run that is over stays as it is. -/
theorem after_of_over (h : (r.ended || r.crashed) = true) (choose : Nat → Choice) (k : Nat) :
    r.after choose k = r := by
  induction k with
  | zero => rfl
  | succ k ih => rw [after_succ, ih, move_of_over h]

theorem after_add (r : Runner) (choose : Nat → Choice) (k m : Nat) :
    r.after choose (k + m) = (r.after choose k).after (fun i => choose (k + i)) m := by
  induction m with
  | zero => rfl
  | succ m ih => rw [← Nat.add_assoc, after_succ, ih, after_succ]

/-- **What the steps keep, a run keeps:** the refresher changes nothing about them. -/
theorem player_after {P : Player → Prop} (hturn : ∀ p p' : Player, p.turn = some p' → P p → P p')
    (hpass : ∀ (p : Player) ms, P p → P (p.pass ms)) (h : P r.player) (choose : Nat → Choice) (k : Nat) :
    P (r.after choose k).player := by
  induction k with
  | zero => exact h
  | succ k ih =>
    rw [after_succ]
    have hmove := move_cases (r.after choose k) (choose k)
    generalize (r.after choose k).move (choose k) = r' at hmove
    cases hmove with
    | played ht => exact hturn _ _ ht ih
    | passed ho hs hr hw => exact hpass _ _ ih
    | _ => exact ih

/-- The refresher is told to stop only after the last step. -/
theorem done_of_told (h : r.told = true → r.player.done = true) (choose : Nat → Choice) (k : Nat) :
    (r.after choose k).told = true → (r.after choose k).player.done = true := by
  induction k with
  | zero => exact h
  | succ k ih =>
    rw [after_succ]
    have hmove := move_cases (r.after choose k) (choose k)
    generalize (r.after choose k).move (choose k) = r' at hmove
    intro ht
    cases hmove with
    | @played player hplay =>
      have hdone := ih ht
      rw [Player.turn_of_done hdone] at hplay
      cases hplay
    | told hd hnot => exact hd
    | passed ho hs hr hw =>
      have hdone := ih ht
      show ((r.after choose k).player.pass _).done = true
      rw [Player.pass_of_none (Player.done_iff.mp hdone).1]
      exact hdone
    | _ => exact ih ht

end Runner

/-! ## The refresher of a replay -/

namespace Refresher

variable {f f' : Refresher}

/-- A refresher whose sink takes no time and that is never told to go on. -/
structure Plain (f : Refresher) : Prop where
  interval : 0 < f.schedule.interval
  delay : f.sink.delay = 0
  quick : ∀ finish next, f.background ≠ .calling finish next
  word : f.shutdown.unheard ≠ some false

theorem plain_new {ms : Nat} (h : ms ≠ 0) : (Refresher.new ms).Plain :=
  ⟨Nat.pos_of_ne_zero h, rfl, fun _ _ h => (by cases h), fun h => (by cases h)⟩

/-- What a refresher has left to do at a moment: to start, a tick that is due, and to hear a word. -/
def unrest (f : Refresher) : Nat :=
  match f.background with
  | .notStarted => 3
  | .resting next => if next ≤ f.now then 2 else 1
  | .calling _ _ => 0
  | .ended => 0

theorem plain_start (h : f.Plain) (hb : f.background = .notStarted) :
    f.start.Plain ∧ f.start.unrest < f.unrest := by
  have hstart : f.start =
      { f with background := .resting f.now, schedule := { f.schedule with start := f.now } } := by
    simp only [start, hb]
  rw [hstart]
  refine ⟨⟨h.interval, h.delay, fun _ _ hc => (by cases hc), h.word⟩, ?_⟩
  simp [unrest, hb]

/-- Being told to stop is heard, unless the run has ended before. -/
theorem plain_send (h : f.Plain) : (f.send true).Plain ∧
    ((f.send true).shutdown.unheard = some true ∨ (f.send true).background = .ended) := by
  unfold send listening
  by_cases hb : f.background = .ended
  · rw [if_neg (by simp [hb])]
    exact ⟨h, Or.inr hb⟩
  · rw [if_pos (by simp [hb])]
    exact ⟨⟨h.interval, h.delay, h.quick, fun hw => (by cases hw)⟩, Or.inl rfl⟩

theorem plain_passUntil (h : f.Plain) (moment : Nat) : (f.passUntil moment).Plain :=
  ⟨h.interval, h.delay, h.quick, h.word⟩

/-- A tick takes no time, whatever becomes of it. -/
theorem plain_backgroundTick (h : f.Plain) (a : Activity) : f.backgroundTick a = { f with
    background := .resting (f.schedule.dueAfter f.now), ticks := f.tickNow a true :: f.ticks } := by
  have hrest : f.afterTick (f.tickNow a true) = .resting (f.schedule.dueAfter f.now) := by
    unfold afterTick tickNow
    rw [h.delay]
    cases a.suppressed <;> rfl
  rw [backgroundTick, hrest]

/-- **A turn of the background run** is a tick that is due or the end of the run. -/
theorem plain_turn {a : Activity} {tickFirst : Bool} (h : f.Plain) (ht : f.turn a tickFirst = some f') :
    f'.Plain ∧ f'.unrest < f.unrest ∧
      (f.shutdown.unheard = some true → f'.shutdown.unheard = some true ∨ f'.background = .ended) := by
  obtain ⟨finish, next, hb, -⟩ | ⟨next, hb, hnext, -, rfl⟩ | ⟨next, hb, -, -, rfl⟩ := turn_cases ht
  · exact absurd hb (h.quick finish next)
  · -- The run rests again at once, until a tick that is still to come.
    have hlater := Schedule.lt_dueAfter f.schedule f.now h.interval
    rw [plain_backgroundTick h a]
    refine ⟨⟨h.interval, h.delay, fun _ _ hc => (by cases hc), h.word⟩, ?_, Or.inl⟩
    simp [unrest, hb, hnext, Nat.not_le.mpr hlater]
  · -- Nobody ever tells this refresher to go on, so whatever is heard ends the run.
    have hend : f.hear = { f with background := .ended } := by
      unfold hear
      cases hw : f.shutdown.unheard with
      | none => rfl
      | some word =>
        cases word with
        | true => rfl
        | false => exact absurd hw h.word
    rw [hend]
    refine ⟨⟨h.interval, h.delay, fun _ _ hc => (by cases hc), h.word⟩, ?_, fun _ => Or.inr rfl⟩
    simp only [unrest, hb]
    split <;> omega

/-- A background run that has no turn has ended, or it rests with nothing to hear and its next tick is still
    to come. -/
theorem plain_turn_eq_none {a : Activity} {tickFirst : Bool} (h : f.Plain)
    (hb : f.background ≠ .notStarted) (ht : f.turn a tickFirst = none) :
    f.background = .ended ∨
      ∃ next, f.background = .resting next ∧ f.now < next ∧ f.shutdown.unheard = none := by
  obtain hst | hended | ⟨finish, next, hst, -⟩ | ⟨next, hrest, hlater, hquiet⟩ := turn_eq_none_iff.mp ht
  · exact absurd hst hb
  · exact Or.inl hended
  · exact absurd hst (h.quick finish next)
  · refine Or.inr ⟨next, hrest, hlater, ?_⟩
    simp only [Shutdown.audible, Bool.or_eq_false_iff] at hquiet
    simpa using hquiet.1

end Refresher

namespace Runner

variable {r r' : Runner} {c : Choice}

/-! ## The invariant -/

/-- **A run is in order** if it has not crashed, its steps are on their way to an outcome, the clock shows
    the time that they account for, and the refresher hears of the end. -/
structure Sound (o : Option (Replay × List StepResult)) (r : Runner) : Prop where
  crashed : r.crashed = false
  outcome : r.player.outcome = o
  clock : r.player.clock = r.now
  told : r.told = true → r.player.done = true
  refresher : ∀ f, r.refresher = some f →
    f.Plain ∧ (r.told = true → f.shutdown.unheard = some true ∨ f.background = .ended)

variable {o : Option (Replay × List StepResult)}

theorem sound_begin {s : Scenario} {board : Board} {others : Nat} (h : s.refreshInterval ≠ some 0) :
    Sound ((Replay.begin s board others).play 0 s.steps) (begin s board others) := by
  refine ⟨rfl, ?_, rfl, fun ht => (by cases ht), fun f hf => ⟨?_, fun ht => (by cases ht)⟩⟩
  · rw [Player.outcome_of_none rfl, Player.playOut]
    show Option.map (fun x => (x.1, [] ++ x.2)) ((Replay.begin s board others).play 0 s.steps) = _
    simp
  · obtain ⟨ms, hms, rfl⟩ := Option.map_eq_some_iff.mp hf
    exact Refresher.plain_new fun hzero => h (by rw [hms, hzero])

/-- No more time passes than the release that waits has left. -/
theorem wake_le {ms left : Nat} (hw : r.wake = some ms) (hp : r.player.wake = some left) : ms ≤ left := by
  unfold wake at hw
  rw [hp] at hw
  cases hr : r.refresherWake with
  | none => rw [hr] at hw; cases hw; exact Nat.le_refl _
  | some b => rw [hr] at hw; cases hw; exact Nat.min_le_left _ _

/-- If the steps have no turn, a release waits, or all of them are over and the refresher has been told. -/
theorem stepsTurn_eq_none (h : r.stepsTurn = none) :
    r.player.turn = none ∧ (r.player.done = true → r.told = true) := by
  unfold stepsTurn at h
  rw [Player.crashes_eq_false, if_neg (by simp)] at h
  cases ht : r.player.turn with
  | some player => rw [ht] at h; cases h
  | none =>
    rw [ht] at h
    dsimp only at h
    refine ⟨rfl, fun hd => ?_⟩
    cases htold : r.told with
    | true => rfl
    | false => simp [hd, htold] at h

/-- If the refresher has no turn it has ended, or it rests with nothing to hear. -/
theorem refresherTurn_eq_none {tickFirst : Bool} {f : Refresher} (hf : r.refresher = some f) (hp : f.Plain)
    (h : r.refresherTurn tickFirst = none) :
    f.background = .ended ∨
      ∃ next, f.background = .resting next ∧ f.now < next ∧ f.shutdown.unheard = none := by
  unfold refresherTurn at h
  rw [hf] at h
  dsimp only at h
  by_cases hb : f.background = .notStarted
  · have hi := hp.interval
    rw [if_pos hb, if_neg (by omega)] at h
    cases h
  · rw [if_neg hb] at h
    exact Refresher.plain_turn_eq_none hp hb (Option.map_eq_none_iff.mp h)

/-- If nobody has a turn before the run is over, a release waits. -/
theorem waits_of_idle {tickFirst : Bool} (h : Sound o r) (ho : r.ended = false) (hs : r.stepsTurn = none)
    (hr : r.refresherTurn tickFirst = none) :
    ∃ w, r.player.wait = some w ∧ w.gate.verdict r.player.replay.controller.limit w.waited = none := by
  obtain ⟨hturn, htold⟩ := stepsTurn_eq_none hs
  rcases Player.turn_eq_none hturn with hdone | hwait
  · -- All steps are over and the refresher has been told, so it has heard, and the run is over after all.
    exfalso
    have ht := htold hdone
    unfold ended at ho
    rw [ht, Bool.true_and] at ho
    cases hf : r.refresher with
    | none => rw [hf] at ho; cases ho
    | some f =>
      obtain ⟨hplain, hword⟩ := h.refresher f hf
      have hended : f.background = .ended := by
        rcases refresherTurn_eq_none hf hplain hr with hb | ⟨next, hb, _, hquiet⟩
        · exact hb
        · rcases hword ht with hheard | hb'
          · rw [hquiet] at hheard; cases hheard
          · exact hb'
      simp [hf, hended] at ho
  · exact hwait

/-- A run on its way to an outcome has a limit for the release that waits, and the limit is ahead. -/
theorem limit_of_idle {tickFirst : Bool} (h : Sound o r) (ho : r.ended = false) (hout : o.isSome = true)
    (hs : r.stepsTurn = none) (hr : r.refresherTurn tickFirst = none) :
    ∃ w, r.player.wait = some w ∧
      ∃ l, r.player.replay.controller.limit = some l ∧ w.waited < l := by
  obtain ⟨w, hwait, hv⟩ := waits_of_idle h ho hs hr
  refine ⟨w, hwait, ?_⟩
  cases hl : r.player.replay.controller.limit with
  | none =>
    rw [← h.outcome, Player.outcome_unlimited hwait hv hl] at hout
    cases hout
  | some l =>
    rw [hl] at hv
    exact ⟨l, rfl, Gate.lt_of_verdict hv⟩

/-- If nobody has a turn, the next thing to happen is still to come. -/
theorem wake_pos {tickFirst : Bool} {w : Wait} {l ms : Nat} (h : Sound o r) (hwait : r.player.wait = some w)
    (hl : r.player.replay.controller.limit = some l) (hlt : w.waited < l)
    (hr : r.refresherTurn tickFirst = none) (hw : r.wake = some ms) : 0 < ms ∧ ms ≤ l - w.waited := by
  have hplayer : r.player.wake = some (l - w.waited) := by simp [Player.wake, hwait, hl]
  refine ⟨?_, wake_le hw hplayer⟩
  unfold wake at hw
  rw [hplayer] at hw
  cases hrw : r.refresherWake with
  | none =>
    rw [hrw] at hw
    cases hw
    omega
  | some b =>
    rw [hrw] at hw
    cases hw
    have hb : 0 < b := by
      obtain ⟨f, hf, hfb⟩ := Option.bind_eq_some_iff.mp hrw
      rcases refresherTurn_eq_none hf (h.refresher f hf).1 hr with hended | ⟨next, hrest, hnext, _⟩
      · simp [Refresher.wake, hended] at hfb
      · simp only [Refresher.wake, hrest, Option.map_some, Option.some.injEq] at hfb
        omega
    omega

/-- **Whatever happens, a run stays in order.** -/
theorem sound_move (h : Sound o r) (c : Choice) : Sound o (r.move c) := by
  have hmove := move_cases r c
  generalize r.move c = r' at hmove
  cases hmove with
  | halted hover => exact h
  | stepsCrash hcrash => rw [Player.crashes_eq_false] at hcrash; cases hcrash
  | @refresherCrash f hf hi =>
    have := (h.refresher f hf).1.interval
    omega
  | @played player ht =>
    -- Steps that have a turn are not done, so the refresher has not been told yet.
    have htold : r.told = false := by
      cases htold : r.told with
      | false => rfl
      | true => rw [Player.turn_of_done (h.told htold)] at ht; cases ht
    refine ⟨h.crashed, (Player.outcome_turn ht).trans h.outcome, (Player.clock_turn ht).trans h.clock,
      fun htold' => ?_, h.refresher⟩
    rw [show r.told = true from htold'] at htold
    cases htold
  | told hd hnot =>
    refine ⟨h.crashed, h.outcome, h.clock, fun _ => hd, fun f hf => ?_⟩
    obtain ⟨f', hf', rfl⟩ := Option.map_eq_some_iff.mp hf
    obtain ⟨hplain, hword⟩ := Refresher.plain_send (h.refresher f' hf').1
    exact ⟨hplain, fun _ => hword⟩
  | @started f hf hb hi =>
    obtain ⟨hplain, hword⟩ := h.refresher f hf
    refine ⟨h.crashed, h.outcome, h.clock, h.told, fun f' hf' => ?_⟩
    cases hf'
    refine ⟨(Refresher.plain_start hplain hb).1, fun htold => Or.inl ?_⟩
    rcases hword htold with hheard | hended
    · simpa only [Refresher.start, hb] using hheard
    · rw [hb] at hended; cases hended
  | @refreshed f f' tickFirst hf ht =>
    obtain ⟨hplain, hword⟩ := h.refresher f hf
    obtain ⟨hplain', hless, hword'⟩ := Refresher.plain_turn hplain ht
    refine ⟨h.crashed, h.outcome, h.clock, h.told, fun g hg => ?_⟩
    cases hg
    refine ⟨hplain', fun htold => ?_⟩
    rcases hword htold with hheard | hended
    · exact hword' hheard
    · simp only [Refresher.turn, hended] at ht
      cases ht
  | @passed ms tickFirst ho hs hr hw =>
    -- Time passes only for a release that waits, so the steps account for all of it.
    obtain ⟨w, hwait, hv⟩ := waits_of_idle h ho hs hr
    refine ⟨h.crashed, ?_, ?_, fun htold => ?_, fun f hf => ?_⟩
    · exact (Player.outcome_pass (stepsTurn_eq_none hs).1 fun _ => wake_le hw).trans h.outcome
    · exact (Player.clock_pass hwait ms).trans (congrArg (· + ms) h.clock)
    · rw [(Player.done_iff.mp (h.told htold)).1] at hwait
      cases hwait
    · obtain ⟨f', hf', rfl⟩ := Option.map_eq_some_iff.mp hf
      obtain ⟨hplain, hword⟩ := h.refresher f' hf'
      exact ⟨Refresher.plain_passUntil hplain _, hword⟩
  | stuck ho hs hr hw => exact h

theorem sound_after (h : Sound o r) (choose : Nat → Choice) (k : Nat) : Sound o (r.after choose k) := by
  induction k with
  | zero => exact h
  | succ k ih => exact sound_move ih (choose k)

/-! ## Every run ends -/

/-- How much the steps have left to do; to tell the refresher is the last of it. -/
def ahead (r : Runner) : Nat := r.player.ahead + if r.told then 0 else 1

/-- For how many milliseconds a release still waits. -/
def patience (r : Runner) : Nat := r.player.wake.getD 0

/-- What the refresher has left to do at the moment. -/
def unrest (r : Runner) : Nat := (r.refresher.map Refresher.unrest).getD 0

/-- **Whatever happens before the end, something goes down:** what the steps have left to do, or else the
    time that a release still waits, or else what the refresher has left to do. -/
theorem move_decreases (h : Sound o r) (ho : r.ended = false) (hout : o.isSome = true) (c : Choice) :
    (r.move c).ahead < r.ahead ∨
      (r.move c).ahead = r.ahead ∧ ((r.move c).patience < r.patience ∨
        (r.move c).patience = r.patience ∧ (r.move c).unrest < r.unrest) := by
  have hmove := move_cases r c
  generalize r.move c = r' at hmove
  cases hmove with
  | halted hover => rw [ho, h.crashed] at hover; cases hover
  | stepsCrash hcrash => rw [Player.crashes_eq_false] at hcrash; cases hcrash
  | @refresherCrash f hf hi =>
    have := (h.refresher f hf).1.interval
    omega
  | @played player ht =>
    exact Or.inl (Nat.add_lt_add_right (Player.ahead_turn ht) _)
  | told hd hnot => exact Or.inl (by simp [ahead, hnot])
  | @started f hf hb hi =>
    have hless := (Refresher.plain_start (h.refresher f hf).1 hb).2
    exact Or.inr ⟨rfl, Or.inr ⟨rfl, by simpa [unrest, hf] using hless⟩⟩
  | @refreshed f f' tickFirst hf ht =>
    have hless := (Refresher.plain_turn (h.refresher f hf).1 ht).2.1
    exact Or.inr ⟨rfl, Or.inr ⟨rfl, by simpa [unrest, hf] using hless⟩⟩
  | @passed ms tickFirst _ hs hr hw =>
    -- Time that passes is not nothing and brings the limit nearer, while the steps stand still.
    obtain ⟨w, hwait, l, hl, hlt⟩ := limit_of_idle h ho hout hs hr
    have hpos := wake_pos h hwait hl hlt hr hw
    refine Or.inr ⟨?_, Or.inl ?_⟩
    · show (r.player.pass ms).ahead + _ = r.player.ahead + _
      rw [Player.ahead_pass]
      rfl
    · have hbefore : r.patience = l - w.waited := by simp [patience, Player.wake, hwait, hl]
      have hafter : (r.pass ms).patience = l - (w.waited + ms) := by
        simp [patience, Player.wake, pass, Player.pass, hwait, hl]
      omega
  | @stuck tickFirst _ hs hr hw =>
    -- A release that waits with a limit wakes up by itself.
    obtain ⟨w, hwait, l, hl, hlt⟩ := limit_of_idle h ho hout hs hr
    unfold wake at hw
    simp only [Player.wake, hwait, hl] at hw
    cases hrw : r.refresherWake with
    | none => rw [hrw] at hw; cases hw
    | some b => rw [hrw] at hw; cases hw

/-- **Every run of steps that come to an end is over some day,** whoever goes on first, and stays over. -/
theorem ends {r : Runner} (h : Sound o r) (hout : o.isSome = true) (choose : Nat → Choice) :
    ∃ k, ∀ m, (r.after choose m).ended = decide (k ≤ m) := by
  by_cases ho : r.ended = true
  · refine ⟨0, fun m => ?_⟩
    rw [after_of_over (by rw [ho, Bool.true_or]), ho]
    simp
  · rw [Bool.not_eq_true] at ho
    have hless := move_decreases h ho hout (choose 0)
    obtain ⟨k, hk⟩ := ends (sound_move h (choose 0)) hout fun i => choose (i + 1)
    refine ⟨k + 1, fun m => ?_⟩
    cases m with
    | zero => simpa using ho
    | succ m =>
      rw [after_succ', hk]
      simp
termination_by (r.ahead, r.patience, r.unrest)
decreasing_by
  rcases hless with h1 | ⟨h1, h2 | ⟨h2, h3⟩⟩
  · exact Prod.Lex.left _ _ h1
  · rw [h1]
    exact Prod.Lex.right _ (Prod.Lex.left _ _ h2)
  · rw [h1, h2]
    exact Prod.Lex.right _ (Prod.Lex.right _ h3)

/-- **A run that is over** has come to the outcome of its steps, in the time that they account for. -/
theorem outcome_of_ended (h : Sound o r) (he : r.ended = true) :
    o = some (r.player.replay, r.player.results) ∧ r.now = r.player.replay.elapsed := by
  have htold : r.told = true := by
    unfold ended at he
    rw [Bool.and_eq_true] at he
    exact he.1
  have hdone := h.told htold
  refine ⟨?_, ?_⟩
  · rw [← h.outcome, Player.outcome_of_done hdone]
  · rw [← h.clock, Player.clock, Player.waiting, (Player.done_iff.mp hdone).1]
    rfl

/-- What has come of a run, if anything has. -/
theorem report_eq_some {s : Scenario} {report : Except Fault Report} (h : r.report s = some report) :
    r.ended = true ∧ r.crashed = false ∧ s.report r.player.replay r.player.results = report := by
  unfold Runner.report at h
  by_cases hover : (r.ended && !r.crashed) = true
  · rw [if_pos hover] at h
    simp only [Bool.and_eq_true, Bool.not_eq_true'] at hover
    exact ⟨hover.1, hover.2, Option.some.inj h⟩
  · rw [if_neg hover] at h
    cases h

/-- A run in order comes to the report on the outcome of its steps when it is over, and to nothing before. -/
theorem report_eq {q : Replay} {results : List StepResult} (h : Sound (some (q, results)) r) (s : Scenario) :
    r.report s = if r.ended then some (s.report q results) else none := by
  unfold report
  rw [h.crashed, Bool.not_false, Bool.and_true]
  cases he : r.ended with
  | false => rfl
  | true =>
    cases (outcome_of_ended h he).1
    rfl

/-- **The report of a run** is there from some moment on, and it is the one on the outcome of its steps. -/
theorem report_after {q : Replay} {results : List StepResult} (h : Sound (some (q, results)) r)
    (s : Scenario) (choose : Nat → Choice) :
    ∃ k, ∀ m, (r.after choose m).report s = if k ≤ m then some (s.report q results) else none := by
  obtain ⟨k, hk⟩ := ends h rfl choose
  refine ⟨k, fun m => ?_⟩
  rw [report_eq (sound_after h choose m), hk]
  simp only [decide_eq_true_eq]

/-! ## A refresher that cannot be started -/

/-- The run has crashed, or it is going to when its refresher is to start. -/
def Unstartable (r : Runner) : Prop :=
  r.crashed = true ∨
    ∃ f, r.refresher = some f ∧ f.background = .notStarted ∧ f.schedule.interval = 0

theorem unstartable_begin {s : Scenario} {board : Board} {others : Nat}
    (h : s.refreshInterval = some 0) : (begin s board others).Unstartable := by
  refine Or.inr ⟨Refresher.new 0, ?_, rfl, rfl⟩
  show s.refreshInterval.map Refresher.new = some (Refresher.new 0)
  rw [h]
  rfl

/-- **One move** starts no refresher without an interval. -/
theorem unstartable_move (h : r.Unstartable) (c : Choice) : (r.move c).Unstartable := by
  have hmove := move_cases r c
  generalize r.move c = r' at hmove
  rcases h with hcrashed | ⟨f, hf, hb, hzero⟩
  · cases hmove with
    | stepsCrash | refresherCrash => exact Or.inl rfl
    | _ => exact Or.inl hcrashed
  · cases hmove with
    | stepsCrash | refresherCrash => exact Or.inl rfl
    | halted | played | stuck => exact Or.inr ⟨f, hf, hb, hzero⟩
    | told hd ht =>
      refine Or.inr ⟨f.send true, ?_, ?_, ?_⟩
      · show r.refresher.map _ = _
        rw [hf]
        rfl
      · unfold Refresher.send
        split <;> exact hb
      · unfold Refresher.send
        split <;> exact hzero
    | started hf' hb' hi =>
      rw [hf] at hf'
      cases hf'
      exact absurd hzero hi
    | refreshed hf' hturn =>
      rw [hf] at hf'
      cases hf'
      simp [Refresher.turn, hb] at hturn
    | @passed ms tickFirst ho hs hr hw =>
      refine Or.inr ⟨f.passUntil (f.now + ms), ?_, hb, hzero⟩
      show r.refresher.map _ = _
      rw [hf]
      rfl

theorem unstartable_after (h : r.Unstartable) (choose : Nat → Choice) (k : Nat) :
    (r.after choose k).Unstartable := by
  induction k with
  | zero => exact h
  | succ k ih => exact unstartable_move ih (choose k)

/-- **Nothing comes of such a run.** -/
theorem report_of_unstartable (h : r.Unstartable) (s : Scenario) : r.report s = none := by
  cases hreport : r.report s with
  | none => rfl
  | some report =>
    obtain ⟨hended, hcrashed, _⟩ := report_eq_some hreport
    rcases h with hcrash | ⟨f, hf, hb, _⟩
    · rw [hcrash] at hcrashed
      cases hcrashed
    · simp [ended, hf, hb] at hended

/-- A run that comes to a report has an interval for its refresher, if it has one. -/
theorem interval_of_report {s : Scenario} {board : Board} {others k : Nat} {choose : Nat → Choice}
    {report : Except Fault Report}
    (h : ((begin s board others).after choose k).report s = some report) : s.refreshInterval ≠ some 0 := by
  intro hzero
  rw [report_of_unstartable (unstartable_after (unstartable_begin hzero) choose k) s] at h
  cases h

/-! ## The time that a run takes -/

theorem now_move (r : Runner) (c : Choice) : r.now ≤ (r.move c).now := by
  have hmove := move_cases r c
  generalize r.move c = r' at hmove
  cases hmove with
  | passed ho hs hr hw => exact Nat.le_add_right ..
  | _ => exact Nat.le_refl _

theorem now_after (r : Runner) (choose : Nat → Choice) (k : Nat) : r.now ≤ (r.after choose k).now := by
  induction k with
  | zero => exact Nat.le_refl _
  | succ k ih => exact Nat.le_trans ih (now_move _ _)

/-- At no moment has more time passed than all steps together take. -/
theorem now_after_le {q : Replay} {results : List StepResult} (h : Sound (some (q, results)) r)
    (choose : Nat → Choice) (m : Nat) : (r.after choose m).now ≤ q.elapsed := by
  -- The clock never goes back, so the moment of the end bounds all others.
  obtain ⟨k, hk⟩ := ends h rfl choose
  have hover := outcome_of_ended (sound_after h choose (m + k)) (by rw [hk]; simp)
  cases hover.1
  rw [← hover.2, after_add]
  exact now_after _ _ k

end Runner
end Kanban
