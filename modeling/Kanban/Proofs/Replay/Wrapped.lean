import Kanban.Proofs.Replay.Runner

/-!
# `Proofs.Replay.Wrapped` — a replay whose count is a machine word

Nothing in a replay looks at the count of interactions but the refresher, and what the refresher makes of it
nobody looks at. So a run with another count does the same things at the same times. In particular it does
not matter whether the count is a natural number or a machine word that wraps around; and below the
greatest word the two do not differ at all.

## Contents
- `wrapped_increment`, `wrapped_decrement`: to wrap the count is to count in machine words;
  `wrapped_of_lt`: small counts fit.
- `Replay.counting`, `attempt_counting`, `conclude_counting`: a replay with another count.
- `Player.counting`, `turn_counting`: its steps one thing at a time.
- `Refresher.remembering`, `turn_remembering`: a refresher that remembers other ticks.
- `Runner.counting`, `move_counting`: the whole run.
- `afterWrapped_counting`, `report_afterWrapped`: the whole run where the count is a machine word.
- `moveWrapped_count`: what happens to the word; `afterWrapped_of_lt`: a word that never wraps.
-/

namespace Kanban

/-! ## The word -/

namespace Activity

theorem wrapped_count (a : Activity) : a.wrapped.count = a.count % UInt64.size := UInt64.toNat_ofNat'

theorem wrapped_lt (a : Activity) : a.wrapped.count < UInt64.size := UInt64.toNat_lt_size _

/-- A count that fits is kept as it is. -/
theorem wrapped_of_lt {a : Activity} (h : a.count < UInt64.size) : a.wrapped = a := by
  obtain ⟨n⟩ := a
  show Activity.mk (wrapped ⟨n⟩).count = ⟨n⟩
  rw [wrapped_count, Nat.mod_eq_of_lt h]

/-- **One more** is one more in words. -/
theorem wrapped_increment (w : UInt64) : (increment ⟨w.toNat⟩).wrapped = ⟨(w + 1).toNat⟩ := by
  show Activity.mk (wrapped ⟨w.toNat + 1⟩).count = _
  rw [wrapped_count, UInt64.toNat_add]
  rfl

/-- **One less** is one less in words, and nothing happens at zero. -/
theorem wrapped_decrement (w : UInt64) :
    (decrement ⟨w.toNat⟩).wrapped = ⟨(if w = 0 then 0 else w - 1).toNat⟩ := by
  have hlt := UInt64.toNat_lt_size w
  rw [wrapped_of_lt (by show w.toNat - 1 < UInt64.size; omega)]
  by_cases hzero : w = 0
  · rw [if_pos hzero, hzero]
    rfl
  · have hle : (1 : UInt64) ≤ w := by
      rw [UInt64.le_iff_toNat_le]
      exact Nat.pos_of_ne_zero fun h => hzero (UInt64.toNat_inj.mp h)
    rw [if_neg hzero, UInt64.toNat_sub_of_le _ _ hle]
    rfl

end Activity

/-! ## The steps -/

/-- The same shared things with another count. -/
def Commons.counting (s : Commons) (a : Activity) : Commons := { s with activity := a }

/-- Letting go of a card is the same with any count. -/
theorem Commons.letGo_counting (s : Commons) (a : Activity) (card : String) :
    (s.counting a).letGo card = ((s.letGo card).1.counting a.decrement, (s.letGo card).2) := by
  cases hp : s.poisoned with
  | true =>
    rw [letGo_of_poisoned card hp, letGo_of_poisoned (s := s.counting a) card hp]
    rfl
  | false =>
    rw [letGo_of_clean card hp, letGo_of_clean (s := s.counting a) card hp]
    rfl

/-- A card is taken up with any count. -/
theorem Controller.start_counting {κ : Type} (c : Controller κ) (s : Commons) (a : Activity) (card : String)
    (left : Float) : c.start (s.counting a) card left =
      (c.start s card left).map fun (c', s') => (c', s'.counting a.increment) := by
  cases h : c.start s card left with
  | error fault => exact start_eq_error.mpr ((start_eq_error (s := s)).mp h)
  | ok next =>
    obtain ⟨c', s'⟩ := next
    obtain ⟨hs, hd, hp, found, hb, rfl, rfl⟩ := start_eq_ok h
    exact start_of_card (s := s.counting a) hs hd hp hb left

namespace Replay

/-- The same replay with another count. -/
def counting (r : Replay) (a : Activity) : Replay := { r with commons := r.commons.counting a }

theorem start_counting (r : Replay) (a : Activity) (card : String) (left : Float) :
    ∃ a', (r.counting a).start card left = ((r.start card left).1.counting a', (r.start card left).2) := by
  unfold start
  rw [show (r.counting a).controller.start (r.counting a).commons card left = _ from
    r.controller.start_counting r.commons a card left]
  cases r.controller.start r.commons card left with
  | error fault => exact ⟨a, rfl⟩
  | ok next => exact ⟨a.increment, rfl⟩

theorem move_counting (r : Replay) (a : Activity) (left : Float) :
    (r.counting a).move left = ((r.move left).1.counting a, (r.move left).2) := by
  have hmove : (r.counting a).controller.move left = r.controller.move left := rfl
  unfold move
  rw [hmove]
  cases r.controller.move left <;> rfl

theorem dropOn_counting (r : Replay) (a : Activity) (column : String) :
    (r.counting a).dropOn column = ((r.dropOn column).1.counting a, (r.dropOn column).2) := by
  have hdrop : (r.counting a).controller.dropOn (r.counting a).commons column =
    r.controller.dropOn r.commons column := rfl
  unfold dropOn
  rw [hdrop]
  rcases r.controller.dropOn r.commons column with ⟨controller, result⟩
  cases result <;> rfl

theorem setDroppable_counting (r : Replay) (a : Activity) (column : String) (droppable : Bool) :
    (r.counting a).setDroppable column droppable =
      ((r.setDroppable column droppable).1.counting a, (r.setDroppable column droppable).2) := by
  have hlock : (r.counting a).commons.lock = r.commons.lock := rfl
  unfold setDroppable
  rw [hlock]
  cases r.commons.lock.bind fun b => b.setDroppable column droppable <;> rfl

theorem commit_counting (r : Replay) (a : Activity) (column : String) :
    (r.counting a).commit column = ((r.commit column).1.counting a, (r.commit column).2) := by
  have hdragged : (r.counting a).attendant.dragged = r.attendant.dragged := rfl
  have hlock : (r.counting a).commons.lock = r.commons.lock := rfl
  unfold commit
  rw [hdragged, hlock]
  cases r.attendant.dragged with
  | none => rfl
  | some card =>
    dsimp only
    cases r.commons.lock.bind fun b => b.transfer card column <;> rfl

theorem runDialog_counting (r : Replay) (a : Activity) (p : Pending String) :
    (r.counting a).runDialog p = ((r.runDialog p).1.counting a, (r.runDialog p).2) := by
  have hdecision : (r.counting a).attendant.decision = r.attendant.decision := rfl
  cases hd : r.attendant.decision with
  | accept =>
    rw [runDialog_accept hd, runDialog_accept (hdecision.trans hd)]
    have hcommit := commit_counting (r.asked p.session.issue) a p.callback
    rw [show ((r.counting a).asked p.session.issue).commit p.callback = _ from hcommit]
  | reject =>
    rw [runDialog_reject hd, runDialog_reject (hdecision.trans hd)]
    rfl
  | never =>
    rw [runDialog_never hd, runDialog_never (hdecision.trans hd)]
    rfl

theorem settle_counting (r : Replay) (a : Activity) (session : Session) (ending : Ending) :
    (r.counting a).settle session ending =
      ((r.settle session ending).1.counting a.decrement, (r.settle session ending).2) := by
  have hletGo := r.commons.letGo_counting a session.card
  unfold settle Controller.settle
  rw [show (r.counting a).commons.letGo session.card = _ from hletGo]
  rfl

theorem release_counting (r : Replay) (a : Activity) (decision : Decision) :
    ∃ a', (r.counting a).release decision =
      ((r.release decision).1.counting a', (r.release decision).2) := by
  cases hs : r.controller.session with
  | none =>
    rw [release_none hs, release_none (r := r.counting a) hs]
    exact ⟨a, rfl⟩
  | some session =>
    cases hp : r.commons.poisoned with
    | true =>
      rw [release_poisoned hs hp, release_poisoned (r := r.counting a) hs hp]
      exact ⟨a.decrement, rfl⟩
    | false =>
      cases hj : r.handedOver.controller.judge r.commons.board session with
      | error ending =>
        rw [release_ending hs hp hj, release_ending (r := r.counting a) hs hp hj]
        have hsettle := settle_counting (r.prepare decision).handedOver a session ending
        rw [show ((r.counting a).prepare decision).handedOver.settle session ending = _ from hsettle]
        exact ⟨a.decrement, rfl⟩
      | ok p =>
        rw [release_calling hs hp hj, release_calling (r := r.counting a) hs hp hj]
        have hdialog := runDialog_counting ((r.prepare decision).handedOver.say [Notice.asking p]) a p
        rw [show (((r.counting a).prepare decision).handedOver.say [Notice.asking p]).runDialog p = _
          from hdialog]
        exact ⟨a, rfl⟩

/-- **A step up to its end or its wait** is the same with any count. -/
theorem attempt_counting (r : Replay) (a : Activity) (s : ScenarioStep) :
    ∃ a', (r.counting a).attempt s = ((r.attempt s).1.counting a', (r.attempt s).2) := by
  cases s with
  | start card left =>
    obtain ⟨a', h⟩ := start_counting r a card left
    exact ⟨a', congrArg (Prod.map id Progress.ended) h⟩
  | move left => exact ⟨a, congrArg (Prod.map id Progress.ended) (move_counting r a left)⟩
  | dropOn column => exact ⟨a, congrArg (Prod.map id Progress.ended) (dropOn_counting r a column)⟩
  | release decision => exact release_counting r a decision
  | setDroppable column droppable =>
    exact ⟨a, congrArg (Prod.map id Progress.ended) (setDroppable_counting r a column droppable)⟩

/-- **So is the end of a wait.** -/
theorem conclude_counting (r : Replay) (a : Activity) (p : Pending String) (c : Confirmation) (waited : Nat) :
    (r.counting a).conclude p c waited =
      ((r.conclude p c waited).1.counting a.decrement, (r.conclude p c waited).2) := by
  have hletGo := r.commons.letGo_counting a p.session.card
  unfold conclude Controller.conclude
  rw [show (r.counting a).commons.letGo p.session.card = _ from hletGo]
  rfl

end Replay

namespace Player

/-- The same steps on the way with another count. -/
def counting (p : Player) (a : Activity) : Player := { p with replay := p.replay.counting a }

/-- **A turn of the steps** is the same with any count. -/
theorem turn_counting (p : Player) (a : Activity) :
    ∃ a', (p.counting a).turn = p.turn.map (·.counting a') := by
  have hwait : (p.counting a).wait = p.wait := rfl
  have hrest : (p.counting a).rest = p.rest := rfl
  have hlimit : (p.counting a).replay.controller.limit = p.replay.controller.limit := rfl
  unfold turn
  rw [hwait, hrest, hlimit]
  cases p.wait with
  | some w =>
    dsimp only
    cases w.gate.verdict p.replay.controller.limit w.waited with
    | none => exact ⟨a, rfl⟩
    | some c =>
      have hconclude := Replay.conclude_counting p.replay a w.pending c w.waited
      refine ⟨a.decrement, ?_⟩
      dsimp only
      rw [show (p.counting a).replay.conclude w.pending c w.waited = _ from hconclude]
      rfl
  | none =>
    cases p.rest with
    | nil => exact ⟨a, rfl⟩
    | cons s rest =>
      obtain ⟨a', hattempt⟩ := Replay.attempt_counting p.replay a s
      refine ⟨a', ?_⟩
      dsimp only
      rw [show (p.counting a).replay.attempt s = _ from hattempt]
      rcases p.replay.attempt s with ⟨r, progress⟩
      cases progress <;> rfl

/-- A turn takes a unit or gives one back, or the count stays as it is. -/
theorem activity_turn {p p' : Player} (h : p.turn = some p') :
    let a := p.replay.commons.activity
    p'.replay.commons.activity = a ∨ p'.replay.commons.activity = a.increment ∨
      p'.replay.commons.activity = a.decrement := by
  intro a
  cases turn_eq_some h with
  | @concluded w c hw hv =>
    exact Or.inr (Or.inr (congrArg Activity.mk (Replay.conclude_count w.pending c w.waited)))
  | @ended s rest r result hw hr ha =>
    have hacc := Replay.attempt_account p.replay s
    rw [ha] at hacc
    rcases hacc.session with ⟨_, hsame⟩ | ⟨_, _, hinc⟩ | ⟨_, _, hdec⟩
    · exact Or.inl hsame
    · exact Or.inr (Or.inl (congrArg Activity.mk hinc))
    · exact Or.inr (Or.inr (congrArg Activity.mk hdec))
  | @begun s rest r pending gate hw hr ha =>
    have hacc := Replay.attempt_account p.replay s
    rw [ha] at hacc
    exact Or.inl hacc.session.2.2

end Player

/-! ## The refresher -/

namespace Refresher

/-- The same refresher that remembers other ticks. -/
def remembering (f : Refresher) (ticks : List Tick) : Refresher := { f with ticks }

theorem start_remembering (f : Refresher) (ticks : List Tick) :
    (f.remembering ticks).start = f.start.remembering ticks := by
  have hbackground : (f.remembering ticks).background = f.background := rfl
  unfold start
  rw [hbackground]
  cases f.background <;> rfl

theorem send_remembering (f : Refresher) (ticks : List Tick) (value : Bool) :
    (f.remembering ticks).send value = (f.send value).remembering ticks := by
  have hlistening : (f.remembering ticks).listening = f.listening := rfl
  unfold send
  rw [hlistening]
  cases f.listening <;> rfl

theorem hear_remembering (f : Refresher) (ticks : List Tick) :
    (f.remembering ticks).hear = f.hear.remembering ticks := by
  have hshutdown : (f.remembering ticks).shutdown = f.shutdown := rfl
  unfold hear
  rw [hshutdown]
  cases f.shutdown.unheard with
  | none => rfl
  | some word => cases word <;> rfl

/-- **A turn of the background run** is the same with any count, but for what is remembered of it. -/
theorem turn_remembering {f : Refresher} (h : f.Plain) (ticks : List Tick) (a a' : Activity)
    (tickFirst : Bool) :
    ∃ ticks', (f.remembering ticks).turn a' tickFirst = (f.turn a tickFirst).map (·.remembering ticks') := by
  have hplain : (f.remembering ticks).Plain := ⟨h.interval, h.delay, h.quick, h.word⟩
  have hnow : (f.remembering ticks).now = f.now := rfl
  have hshutdown : (f.remembering ticks).shutdown = f.shutdown := rfl
  cases hb : f.background with
  | notStarted => exact ⟨ticks, by simp [turn, remembering, hb]⟩
  | ended => exact ⟨ticks, by simp [turn, remembering, hb]⟩
  | calling finish next => exact absurd hb (h.quick finish next)
  | resting next =>
    have hb' : (f.remembering ticks).background = .resting next := hb
    unfold turn
    simp only [hb, hb', hnow, hshutdown, plain_backgroundTick h, plain_backgroundTick hplain,
      hear_remembering]
    cases next ≤ f.now && (tickFirst || !f.shutdown.audible) with
    | true => exact ⟨_, rfl⟩
    | false =>
      refine ⟨ticks, ?_⟩
      cases f.shutdown.audible <;> rfl

end Refresher

/-! ## The whole run -/

namespace Runner

/-- The same run with another count, and a refresher that remembers other ticks. -/
def counting (r : Runner) (a : Activity) (ticks : List Tick) : Runner :=
  { r with player := r.player.counting a, refresher := r.refresher.map (·.remembering ticks) }

theorem refresher_counting (r : Runner) (a : Activity) (ticks : List Tick) :
    (r.counting a ticks).refresher = r.refresher.map (·.remembering ticks) := rfl

theorem ended_counting (r : Runner) (a : Activity) (ticks : List Tick) :
    (r.counting a ticks).ended = r.ended := by
  unfold ended counting
  dsimp only
  cases r.refresher <;> rfl

theorem wake_counting (r : Runner) (a : Activity) (ticks : List Tick) :
    (r.counting a ticks).wake = r.wake := by
  have hplayer : (r.counting a ticks).player.wake = r.player.wake := rfl
  have hrefresher : (r.counting a ticks).refresherWake = r.refresherWake := by
    unfold refresherWake counting
    dsimp only
    cases r.refresher <;> rfl
  unfold wake
  rw [hplayer, hrefresher]

theorem pass_counting (r : Runner) (a : Activity) (ticks : List Tick) (ms : Nat) :
    (r.counting a ticks).pass ms = (r.pass ms).counting a ticks := by
  unfold pass counting
  dsimp only
  cases r.refresher <;> rfl

theorem stepsTurn_counting (r : Runner) (a : Activity) (ticks : List Tick) :
    ∃ a', (r.counting a ticks).stepsTurn = r.stepsTurn.map (·.counting a' ticks) := by
  obtain ⟨a', hturn⟩ := Player.turn_counting r.player a
  replace hturn : (r.counting a ticks).player.turn = r.player.turn.map (·.counting a') := hturn
  have hdone : (r.counting a ticks).player.done = r.player.done := rfl
  have htold : (r.counting a ticks).told = r.told := rfl
  unfold stepsTurn
  rw [Player.crashes_eq_false, Player.crashes_eq_false, hturn, hdone, htold]
  cases r.player.turn with
  | some player => exact ⟨a', rfl⟩
  | none =>
    refine ⟨a, ?_⟩
    cases r.player.done && !r.told with
    | false => rfl
    | true =>
      have hsend : (r.counting a ticks).refresher.map (·.send true) =
          (r.refresher.map (·.send true)).map (·.remembering ticks) := by
        rw [refresher_counting]
        cases r.refresher with
        | none => rfl
        | some f => exact congrArg some (Refresher.send_remembering f ticks true)
      exact congrArg (fun g => some { r with player := r.player.counting a, told := true, refresher := g })
        hsend

theorem refresherTurn_counting {r : Runner} (h : ∀ f, r.refresher = some f → f.Plain) (a : Activity)
    (ticks : List Tick) (tickFirst : Bool) :
    ∃ ticks', (r.counting a ticks).refresherTurn tickFirst =
      (r.refresherTurn tickFirst).map (·.counting a ticks') := by
  cases hf : r.refresher with
  | none =>
    exact ⟨ticks, by simp only [refresherTurn, refresher_counting, hf, Option.map_none]⟩
  | some f =>
    have hf' : (r.counting a ticks).refresher = some (f.remembering ticks) := by
      rw [refresher_counting, hf]
      rfl
    have hbackground : (f.remembering ticks).background = f.background := rfl
    have hinterval : (f.remembering ticks).schedule.interval = f.schedule.interval := rfl
    simp only [refresherTurn, hf, hf', hbackground, hinterval, Refresher.start_remembering]
    by_cases hb : f.background = .notStarted
    · rw [if_pos hb, if_pos hb]
      refine ⟨ticks, ?_⟩
      by_cases hi : f.schedule.interval = 0
      · rw [if_pos hi, if_pos hi, ← hf', ← hf]
        rfl
      · rw [if_neg hi, if_neg hi]
        rfl
    · rw [if_neg hb, if_neg hb]
      obtain ⟨ticks', hturn⟩ := Refresher.turn_remembering (h f hf) ticks
        r.player.replay.commons.activity (r.counting a ticks).player.replay.commons.activity tickFirst
      refine ⟨ticks', ?_⟩
      rw [hturn, Option.map_map, Option.map_map]
      rfl

theorem turn_counting {r : Runner} (h : ∀ f, r.refresher = some f → f.Plain) (a : Activity)
    (ticks : List Tick) (c : Choice) :
    ∃ a' ticks', (r.counting a ticks).turn c = (r.turn c).map (·.counting a' ticks') := by
  obtain ⟨a', hsteps⟩ := stepsTurn_counting r a ticks
  obtain ⟨ticks', hrefresher⟩ := refresherTurn_counting h a ticks c.tick
  unfold turn
  rw [hsteps, hrefresher]
  -- Whoever has a turn first decides what the count is and what is remembered.
  cases c.steps with
  | true =>
    cases r.stepsTurn with
    | some next => exact ⟨a', ticks, rfl⟩
    | none => exact ⟨a, ticks', rfl⟩
  | false =>
    cases r.refresherTurn c.tick with
    | some next => exact ⟨a, ticks', rfl⟩
    | none => exact ⟨a', ticks, rfl⟩

/-- **What happens next** is the same with any count. -/
theorem move_counting {r : Runner} (h : ∀ f, r.refresher = some f → f.Plain) (a : Activity)
    (ticks : List Tick) (c : Choice) :
    ∃ a' ticks', (r.counting a ticks).move c = (r.move c).counting a' ticks' := by
  obtain ⟨a', ticks', hturn⟩ := turn_counting h a ticks c
  have hcrashed : (r.counting a ticks).crashed = r.crashed := rfl
  unfold move
  rw [ended_counting, wake_counting, hturn, hcrashed]
  cases r.ended || r.crashed with
  | true => exact ⟨a, ticks, rfl⟩
  | false =>
    cases r.turn c with
    | some next => exact ⟨a', ticks', rfl⟩
    | none =>
      cases r.wake with
      | some ms => exact ⟨a, ticks, pass_counting r a ticks ms⟩
      | none => exact ⟨a, ticks, rfl⟩

/-- Every run has a count, and its refresher remembers some ticks. -/
theorem exists_eq_counting (r : Runner) : ∃ a ticks, r = r.counting a ticks := by
  obtain ⟨player, refresher, now, told, crashed⟩ := r
  refine ⟨player.replay.commons.activity, (refresher.map (·.ticks)).getD [], ?_⟩
  cases refresher <;> rfl

/-- A run with another count comes to the same report but for the count. -/
theorem report_counting (r : Runner) (a : Activity) (ticks : List Tick) (s : Scenario) :
    (r.counting a ticks).report s =
      (r.report s).map (Except.map fun report => { report with activity := a.count }) := by
  have hreport : s.report (r.counting a ticks).player.replay r.player.results =
      (s.report r.player.replay r.player.results).map fun report => { report with activity := a.count } := by
    have hlock : (r.counting a ticks).player.replay.commons.lock = r.player.replay.commons.lock := rfl
    unfold Scenario.report
    rw [hlock]
    cases r.player.replay.commons.lock <;> rfl
  have hcrashed : (r.counting a ticks).crashed = r.crashed := rfl
  unfold report
  rw [ended_counting, hcrashed, show (r.counting a ticks).player.results = r.player.results from rfl, hreport]
  cases r.ended && !r.crashed <;> rfl

/-! ## In a machine word -/

variable {o : Option (Replay × List StepResult)} {r : Runner}

/-- A run whose count fits in a word. -/
theorem wrapped_of_lt (h : r.player.replay.commons.activity.count < UInt64.size) : r.wrapped = r := by
  unfold wrapped
  rw [Activity.wrapped_of_lt h]

theorem wrapped_wrapped (r : Runner) : r.wrapped.wrapped = r.wrapped :=
  wrapped_of_lt (Activity.wrapped_lt _)

theorem afterWrapped_succ (r : Runner) (choose : Nat → Choice) (k : Nat) :
    r.afterWrapped choose (k + 1) = ((r.afterWrapped choose k).move (choose k)).wrapped := rfl

theorem wrapped_afterWrapped (h : r.wrapped = r) (choose : Nat → Choice) (k : Nat) :
    (r.afterWrapped choose k).wrapped = r.afterWrapped choose k := by
  cases k with
  | zero => exact h
  | succ k => exact wrapped_wrapped _

/-- A run whose count wraps stays as it is once it is over. -/
theorem afterWrapped_of_ended {choose : Nat → Choice} {k m : Nat} (h : r.wrapped = r)
    (he : (r.afterWrapped choose k).ended = true) (hle : k ≤ m) :
    r.afterWrapped choose m = r.afterWrapped choose k := by
  induction hle with
  | refl => rfl
  | @step m hle ih =>
    rw [afterWrapped_succ, ih, move_of_over (by rw [he, Bool.true_or]), wrapped_afterWrapped h]

/-- **A run whose count wraps** does the same things at the same times. -/
theorem afterWrapped_counting (h : Sound o r) (choose : Nat → Choice) (k : Nat) :
    ∃ a ticks, r.afterWrapped choose k = (r.after choose k).counting a ticks := by
  induction k with
  | zero => exact exists_eq_counting r
  | succ k ih =>
    obtain ⟨a, ticks, hk⟩ := ih
    have hplain : ∀ f, (r.after choose k).refresher = some f → f.Plain :=
      fun f hf => ((sound_after h choose k).refresher f hf).1
    obtain ⟨a', ticks', hmove⟩ := move_counting hplain a ticks (choose k)
    rw [afterWrapped_succ, hk, hmove]
    exact ⟨a'.wrapped, ticks', rfl⟩

/-- It never crashes, and the clock shows the same time. -/
theorem afterWrapped_sound (h : Sound o r) (choose : Nat → Choice) (k : Nat) :
    (r.afterWrapped choose k).crashed = false ∧ (r.afterWrapped choose k).now = (r.after choose k).now := by
  obtain ⟨a, ticks, hk⟩ := afterWrapped_counting h choose k
  rw [hk]
  exact ⟨(sound_after h choose k).crashed, rfl⟩

/-- **It comes to the same report** but for the count. -/
theorem report_afterWrapped {q : Replay} {results : List StepResult} (h : Sound (some (q, results)) r)
    (hr : r.wrapped = r) (s : Scenario) (choose : Nat → Choice) :
    ∃ k count, ∀ m, (r.afterWrapped choose m).report s =
      if k ≤ m then some ((s.report q results).map fun report => { report with activity := count })
      else none := by
  obtain ⟨k, hk⟩ := ends h rfl choose
  have hended : ∀ m, (r.afterWrapped choose m).ended = decide (k ≤ m) := by
    intro m
    obtain ⟨a, ticks, hm⟩ := afterWrapped_counting h choose m
    rw [hm, ended_counting, hk]
  obtain ⟨a, ticks, hover⟩ := afterWrapped_counting h choose k
  refine ⟨k, a.count, fun m => ?_⟩
  by_cases hle : k ≤ m
  · -- Nothing happens after the end, so the count is the one at the end.
    rw [afterWrapped_of_ended hr (by simp [hended]) hle, hover, report_counting,
      report_eq (sound_after h choose k), hk]
    simp [hle]
  · obtain ⟨a', ticks', hm⟩ := afterWrapped_counting h choose m
    rw [hm, report_counting, report_eq (sound_after h choose m), hk]
    simp [hle]

/-- **A word that never wraps.** As long as one unit more than those of the others fits in a word, the count
    is the natural number at every moment. -/
theorem afterWrapped_of_lt {n : Nat} (h : Player.Counted n r.player) (hn : n + 1 < UInt64.size)
    (choose : Nat → Choice) (k : Nat) : r.afterWrapped choose k = r.after choose k := by
  induction k with
  | zero => rfl
  | succ k ih =>
    have hcounted : Player.Counted n (r.after choose (k + 1)).player :=
      player_after (fun _ _ => Player.counted_turn) (fun _ => Player.counted_pass) h choose (k + 1)
    have hcount := hcounted.1
    rw [afterWrapped_succ, ih, ← after_succ]
    refine wrapped_of_lt ?_
    rw [hcount]
    split <;> omega

/-- What it comes to is then the report with the count of the outcome. -/
theorem report_afterWrapped_of_lt {n m : Nat} {q : Replay} {results : List StepResult} {s : Scenario}
    {choose : Nat → Choice} {report : Except Fault Report} (h : Sound (some (q, results)) r)
    (hc : Player.Counted n r.player) (hn : n + 1 < UInt64.size)
    (hreport : (r.afterWrapped choose m).report s = some report) : s.report q results = report := by
  rw [afterWrapped_of_lt hc hn, report_eq (sound_after h choose m)] at hreport
  cases he : (r.after choose m).ended with
  | false => rw [he] at hreport; cases hreport
  | true => rw [he] at hreport; exact Option.some.inj hreport

/-- **What happens to the word:** it stays, or one is added to it as words are added, or one is taken from it
    unless it is zero. -/
theorem moveWrapped_count {w : UInt64} (h : r.player.replay.commons.activity = ⟨w.toNat⟩) (c : Choice) :
    ∃ w' : UInt64, (r.moveWrapped c).player.replay.commons.activity = ⟨w'.toNat⟩ ∧
      (w' = w ∨ w' = w + 1 ∨ w' = if w = 0 then 0 else w - 1) := by
  have hsame : (Activity.mk w.toNat).wrapped = ⟨w.toNat⟩ := Activity.wrapped_of_lt (UInt64.toNat_lt_size w)
  have hmove := move_cases r c
  unfold moveWrapped
  generalize r.move c = r' at hmove
  cases hmove with
  | @played player ht =>
    have hturn := Player.activity_turn ht
    rw [h] at hturn
    show ∃ w' : UInt64, player.replay.commons.activity.wrapped = _ ∧ _
    rcases hturn with hstay | hinc | hdec
    · exact ⟨w, by rw [hstay, hsame], Or.inl rfl⟩
    · exact ⟨w + 1, by rw [hinc, Activity.wrapped_increment], Or.inr (Or.inl rfl)⟩
    · exact ⟨if w = 0 then 0 else w - 1, by rw [hdec, Activity.wrapped_decrement], Or.inr (Or.inr rfl)⟩
  | _ => exact ⟨w, (congrArg Activity.wrapped h).trans hsame, Or.inl rfl⟩

end Runner
end Kanban
