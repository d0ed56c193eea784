import Kanban.Proofs.Confirmation
import Kanban.Proofs.Drag.Steps
import Kanban.Proofs.Replay.Registration

/-!
# `Proofs.Replay.Steps` — what one step of a replay does to the session, the count and the clock

## Contents
- `runDialog_beside`, `runDialog_reply`: a dialog answers, and touches nothing but the board and the attendant.
- `release_none`, `release_poisoned`, `release_ending`, `release_calling`: the four ways of a release.
- `Replay.Account` and `attempt_account`: a step up to its end or its wait, once and for all.
- `Replay.Counted`, `step_counted`, `play_counted`: the count of interactions.
- `settle_of_clean`, `conclude_of_clean`: the end of a release on a board in good order; `conclude_count` on any.
- `await_of_reply`, `await_of_limit`, `await_unlimited`, `await_eq_some`: how long a wait is.
- `step_elapsed`, `play_elapsed`: time only passes in dialogs that are left open.
-/

namespace Kanban.Replay

variable {r r' : Replay}

/-! ## Dialogs -/

/-- The second of two replays has the controller, the count and the clock of the first. -/
structure Beside (r r' : Replay) : Prop where
  controller : r'.controller = r.controller
  activity : r'.commons.activity = r.commons.activity
  elapsed : r'.elapsed = r.elapsed

/-- A move that the board allows is committed. -/
theorem commit_of_transfer {card column : String} {b : Board} (hd : r.attendant.dragged = some card)
    (hp : r.commons.poisoned = false) (hb : r.commons.board.transfer card column = .ok b) :
    r.commit column = ({ r with commons := { r.commons with board := b } }, true) := by
  rw [commit, hd]
  simp only [Commons.lock_of_clean hp, Except.bind, hb]

theorem commit_beside (r : Replay) (column : String) : Beside r (r.commit column).1 := by
  unfold commit
  cases r.attendant.dragged with
  | none => exact ⟨rfl, rfl, rfl⟩
  | some card =>
    dsimp only
    cases r.commons.lock.bind fun b => b.transfer card column with
    | ok board => exact ⟨rfl, rfl, rfl⟩
    | error fault => exact ⟨rfl, rfl, rfl⟩

theorem runDialog_accept {p : Pending String} (h : r.attendant.decision = .accept) :
    r.runDialog p = (((r.asked p.session.issue).commit p.callback).1,
      (Gate.fresh.resolve ((r.asked p.session.issue).commit p.callback).2).1) := by
  simp only [runDialog, asked, h]

theorem runDialog_reject {p : Pending String} (h : r.attendant.decision = .reject) :
    r.runDialog p = (r.asked p.session.issue, (Gate.fresh.resolve false).1) := by
  simp only [runDialog, asked, h]

theorem runDialog_never {p : Pending String} (h : r.attendant.decision = .never) :
    r.runDialog p = ((r.asked p.session.issue).park, Gate.fresh) := by
  simp only [runDialog, asked, h]

/-- A dialog touches nothing but the board and the attendant. -/
theorem runDialog_beside (r : Replay) (p : Pending String) : Beside r (r.runDialog p).1 := by
  cases h : r.attendant.decision with
  | accept =>
    rw [runDialog_accept h]
    obtain ⟨hc, ha, he⟩ := commit_beside (r.asked p.session.issue) p.callback
    exact ⟨hc, ha, he⟩
  | reject => rw [runDialog_reject h]; exact ⟨rfl, rfl, rfl⟩
  | never => rw [runDialog_never h]; exact ⟨rfl, rfl, rfl⟩

/-- Every dialog answers at once unless it is left open. -/
theorem runDialog_reply (p : Pending String) (h : r.attendant.decision ≠ .never) :
    (r.runDialog p).2.reply.isSome = true := by
  cases hd : r.attendant.decision with
  | accept => rw [runDialog_accept hd]; rfl
  | reject => rw [runDialog_reject hd]; rfl
  | never => exact absurd hd h

/-! ## Releasing -/

theorem release_none (h : r.controller.session = none) (decision : Decision) :
    r.release decision = ((r.prepare decision).finish, .ended (.refused .noActiveDrag)) := by
  have hc : (r.prepare decision).controller.session = none := h
  simp only [release, Controller.release_none hc]

theorem release_poisoned {session : Session} (h : r.controller.session = some session)
    (hp : r.commons.poisoned = true) (decision : Decision) :
    r.release decision = ({ r.prepare decision with
      controller := { r.controller with phase := .idle, session := none }
      commons := r.commons.unhold }.finish, .ended (.refused .boardUnavailable)) := by
  have hc : (r.prepare decision).controller.session = some session := h
  have hs : (r.prepare decision).commons.poisoned = true := hp
  simp only [release, Controller.release_poisoned hc hs]
  rfl

/-- A replay whose controller has let the session go. -/
def handedOver (r : Replay) : Replay :=
  { r with controller := { r.controller with phase := .idle, session := none } }

/-- A release that asks nobody ends at once. -/
theorem release_ending {session : Session} {ending : Ending} (h : r.controller.session = some session)
    (hp : r.commons.poisoned = false)
    (hj : r.handedOver.controller.judge r.commons.board session = .error ending) (decision : Decision) :
    r.release decision = (((r.prepare decision).handedOver.settle session ending).1,
      .ended ((r.prepare decision).handedOver.settle session ending).2) := by
  have hc : (r.prepare decision).controller.session = some session := h
  have hs : (r.prepare decision).commons.poisoned = false := hp
  have hj' : ({ (r.prepare decision).controller with phase := .idle, session := none } :
      Controller String).judge (r.prepare decision).commons.board session = .error ending := hj
  simp only [release, Controller.release_ok hc hs, hj']
  rfl

/-- A release that asks somebody waits once the dialog has been run. -/
theorem release_calling {session : Session} {p : Pending String} (h : r.controller.session = some session)
    (hp : r.commons.poisoned = false)
    (hj : r.handedOver.controller.judge r.commons.board session = .ok p) (decision : Decision) :
    r.release decision =
      (let asked := ((r.prepare decision).handedOver.say [Notice.asking p]).runDialog p
       ({ asked.1 with controller := asked.1.controller.await }, .waiting p asked.2)) := by
  have hc : (r.prepare decision).controller.session = some session := h
  have hs : (r.prepare decision).commons.poisoned = false := hp
  have hj' : ({ (r.prepare decision).controller with phase := .idle, session := none } :
      Controller String).judge (r.prepare decision).commons.board session = .ok p := hj
  simp only [release, Controller.release_ok hc hs, hj']
  rfl

/-! ## Up to the end or the wait -/

/-- Whether a step is a release with a dialog that is left open. -/
def leavesOpen (s : ScenarioStep) : Bool := s = .release .never

/-- What a step does to the session, the count and the clock before its end or its wait. -/
structure Account (r : Replay) (s : ScenarioStep) (r' : Replay) (progress : Progress) : Prop where
  elapsed : r'.elapsed = r.elapsed
  limit : r'.controller.limit = r.controller.limit
  /-- The session stays, or it is opened and counted, or it is closed and its unit is given back; a release
      that waits keeps the unit. -/
  session :
    match progress with
    | .ended _ =>
      (r'.controller.session.isSome = r.controller.session.isSome ∧
          r'.commons.activity = r.commons.activity) ∨
        (r.controller.session = none ∧ r'.controller.session.isSome = true ∧
          r'.commons.activity.count = r.commons.activity.count + 1) ∨
        (r.controller.session.isSome = true ∧ r'.controller.session = none ∧
          r'.commons.activity.count = r.commons.activity.count - 1)
    | .waiting _ _ =>
      r.controller.session.isSome = true ∧ r'.controller.session = none ∧
        r'.commons.activity = r.commons.activity
  /-- Only a dialog that is left open does not answer at once. -/
  reply :
    match progress with
    | .ended _ => True
    | .waiting _ g => leavesOpen s = false → g.reply.isSome = true

/-- The count is what others have in progress and one unit while a session is open. -/
def Counted (n : Nat) (r : Replay) : Prop :=
  r.commons.activity.count = n + if r.controller.session.isSome then 1 else 0

/-- Before the first step there is no session. -/
theorem counted_begin (s : Scenario) (board : Board) (n : Nat) : Counted n (begin s board n) := by
  show n = n + if (controllerOf s).session.isSome then 1 else 0
  rw [controllerOf_eq]
  rfl

/-- A step that is over at once keeps the books. -/
theorem Account.counted {n : Nat} {s : ScenarioStep} {result : StepResult}
    (h : Account r s r' (.ended result)) (hc : Counted n r) : Counted n r' := by
  unfold Counted at hc ⊢
  -- The session stays, is opened, or is closed, and the count with it.
  rcases h.session with ⟨hs, hsame⟩ | ⟨hs, hs', hinc⟩ | ⟨hs, hs', hdec⟩
  · rw [hsame, hs, hc]
  · rw [hinc, hs', hc, hs]
    rfl
  · rw [hdec, hs', hc, hs]
    rfl

/-- A release that waits has taken the session and keeps its unit. -/
theorem Account.held {n : Nat} {s : ScenarioStep} {p : Pending String} {g : Gate}
    (h : Account r s r' (.waiting p g)) (hc : Counted n r) :
    r'.controller.session = none ∧ r'.commons.activity.count = n + 1 := by
  obtain ⟨hs, hs', hsame⟩ := h.session
  unfold Counted at hc
  rw [hs] at hc
  exact ⟨hs', by rw [hsame]; exact hc⟩

/-- A step that is over at once and leaves the session as it is. -/
theorem Account.of_kept {s : ScenarioStep} {result : StepResult} (he : r'.elapsed = r.elapsed)
    (hl : r'.controller.limit = r.controller.limit)
    (hs : r'.controller.session.isSome = r.controller.session.isSome)
    (ha : r'.commons.activity = r.commons.activity) : Account r s r' (.ended result) :=
  ⟨he, hl, Or.inl ⟨hs, ha⟩, trivial⟩

theorem start_account (card : String) (left : Float) :
    Account r (.start card left) (r.start card left).1 (.ended (r.start card left).2) := by
  unfold start
  cases h : r.controller.start r.commons card left with
  | error fault => exact .of_kept rfl rfl rfl rfl
  | ok result =>
    obtain ⟨controller, commons⟩ := result
    obtain ⟨hnone, _, _, found, _, rfl, rfl⟩ := Controller.start_eq_ok h
    exact ⟨rfl, rfl, Or.inr (Or.inl ⟨hnone, rfl, rfl⟩), trivial⟩

theorem move_account (left : Float) :
    Account r (.move left) (r.move left).1 (.ended (r.move left).2) := by
  unfold move
  cases h : r.controller.move left with
  | error fault => exact .of_kept rfl rfl rfl rfl
  | ok result =>
    obtain ⟨controller, offset⟩ := result
    obtain ⟨session, hs, hs', _, hl⟩ := Controller.move_eq_ok h
    exact .of_kept rfl hl (by rw [hs, hs']; rfl) rfl

theorem dropOn_account (column : String) :
    Account r (.dropOn column) (r.dropOn column).1 (.ended (r.dropOn column).2) := by
  obtain ⟨t, ht⟩ := Controller.dropOn_session (c := r.controller) (s := r.commons) column
  have hdrop : (r.dropOn column).1 = { r with controller := (r.controller.dropOn r.commons column).1 } := by
    unfold dropOn
    obtain ⟨controller, result⟩ := r.controller.dropOn r.commons column
    cases result <;> rfl
  rw [hdrop, ht]
  exact .of_kept rfl rfl (by simp) rfl

theorem setDroppable_account (column : String) (droppable : Bool) :
    Account r (.setDroppable column droppable) (r.setDroppable column droppable).1
      (.ended (r.setDroppable column droppable).2) := by
  unfold setDroppable
  cases r.commons.lock.bind fun b => b.setDroppable column droppable with
  | error fault => exact .of_kept rfl rfl rfl rfl
  | ok board => exact .of_kept rfl rfl rfl rfl

theorem release_account (decision : Decision) :
    Account r (.release decision) (r.release decision).1 (r.release decision).2 := by
  cases hs : r.controller.session with
  | none =>
    rw [release_none hs]
    exact .of_kept rfl rfl rfl rfl
  | some session =>
    have hsome : r.controller.session.isSome = true := by rw [hs]; rfl
    cases hp : r.commons.poisoned with
    | true =>
      rw [release_poisoned hs hp]
      exact ⟨rfl, rfl, Or.inr (Or.inr ⟨hsome, rfl, rfl⟩), trivial⟩
    | false =>
      cases hj : r.handedOver.controller.judge r.commons.board session with
      | error ending =>
        rw [release_ending hs hp hj]
        exact ⟨rfl, rfl, Or.inr (Or.inr ⟨hsome, rfl, Commons.letGo_count _ _⟩), trivial⟩
      | ok p =>
        rw [release_calling hs hp hj]
        -- The session has been taken before the dialog runs, and the dialog does not touch it.
        obtain ⟨hc, ha, he⟩ :=
          runDialog_beside ((r.prepare decision).handedOver.say [Notice.asking p]) p
        refine ⟨he, ?_, ⟨hsome, ?_, ha⟩, fun hopen => runDialog_reply p ?_⟩
        · show (Replay.runDialog _ p).1.controller.limit = r.controller.limit
          rw [hc]
          rfl
        · show (Replay.runDialog _ p).1.controller.session = none
          rw [hc]
          rfl
        · intro hd
          have hnever : decision = .never := hd
          simp [leavesOpen, hnever] at hopen

/-- **A step up to its end or its wait,** on any board. -/
theorem attempt_account (r : Replay) (s : ScenarioStep) :
    Account r s (r.attempt s).1 (r.attempt s).2 := by
  cases s with
  | start card left => exact start_account card left
  | move left => exact move_account left
  | dropOn column => exact dropOn_account column
  | setDroppable column droppable => exact setDroppable_account column droppable
  | release decision => exact release_account decision

/-! ## The end of a wait -/

theorem conclude_session (p : Pending String) (c : Confirmation) (waited : Nat) :
    (r.conclude p c waited).1.controller.session = r.controller.session := rfl

theorem conclude_limit (p : Pending String) (c : Confirmation) (waited : Nat) :
    (r.conclude p c waited).1.controller.limit = r.controller.limit := rfl

theorem conclude_elapsed (p : Pending String) (c : Confirmation) (waited : Nat) :
    (r.conclude p c waited).1.elapsed = r.elapsed + waited := rfl

/-- On a board in good order a release that asks nobody ends with its outcome. -/
theorem settle_of_clean (hp : r.commons.poisoned = false) (session : Session) (ending : Ending) :
    r.settle session ending =
      (({ r with commons := (r.commons.mark session.card false).unhold }.say
        [Notice.ended session ending]).finish, .released ending.outcome) := by
  simp only [settle, Controller.settle, Commons.letGo_of_clean _ hp]
  rfl

/-- On a board in good order the end of a wait is the outcome that the confirmation stands for. -/
theorem conclude_of_clean (hp : r.commons.poisoned = false) (p : Pending String) (c : Confirmation)
    (waited : Nat) :
    ∃ lines, r.conclude p c waited =
      (({ r with
          controller := { r.controller with phase := .idle }
          commons := (r.commons.mark p.session.card false).unhold
          elapsed := r.elapsed + waited }.say lines).finish,
        .released (if c.isAccepted then .committed p.target else .declined p.target c)) := by
  simp only [conclude, Controller.conclude, Commons.letGo_of_clean _ hp]
  exact ⟨_, rfl⟩

/-- The end of a wait gives the unit of activity back. -/
theorem conclude_count (p : Pending String) (c : Confirmation) (waited : Nat) :
    (r.conclude p c waited).1.commons.activity.count = r.commons.activity.count - 1 :=
  Commons.letGo_count r.commons p.session.card

/-- A wait for what has been answered is over at once. -/
theorem await_of_reply {p : Pending String} {g : Gate} {reply : Reply} (h : g.reply = some reply) :
    r.await p g = some (r.conclude p reply.confirmation 0) := by
  rw [await, Exchange.waitOut_of_verdict (Gate.verdict_of_reply h _ _)]

/-- A wait for nothing is over at its limit. -/
theorem await_of_limit {p : Pending String} {l : Nat} (hl : r.controller.limit = some l) :
    r.await p Gate.fresh = some (r.conclude p .timedOut l) := by
  rw [await, hl]
  by_cases hzero : l = 0
  · subst hzero
    rfl
  · have hv : Gate.fresh.verdict (some l) 0 = none := by simp [Gate.verdict, Gate.fresh, hzero]
    rw [Exchange.waitOut_of_limit hv]

/-- Without a limit a wait for nothing never ends. -/
theorem await_unlimited {p : Pending String} (hl : r.controller.limit = none) :
    r.await p Gate.fresh = none := by
  rw [await, hl, Exchange.waitOut_unlimited (Gate.verdict_unlimited rfl)]

/-- A wait that ends is over by the limit, and at once if somebody has answered. -/
theorem await_eq_some {p : Pending String} {g : Gate} {result : StepResult}
    (h : r.await p g = some (r', result)) :
    ∃ c waited, r.conclude p c waited = (r', result) ∧ waited ≤ r.controller.limit.getD 0 ∧
      (g.reply.isSome = true → waited = 0) := by
  unfold await at h
  cases hr : g.reply with
  | some reply =>
    rw [Exchange.waitOut_of_verdict (Gate.verdict_of_reply hr _ _)] at h
    exact ⟨_, 0, Option.some.inj h, Nat.zero_le _, fun _ => rfl⟩
  | none =>
    cases hl : r.controller.limit with
    | none =>
      rw [hl, Exchange.waitOut_unlimited (Gate.verdict_unlimited hr)] at h
      cases h
    | some l =>
      have hle := Exchange.waitOut_elapsed (g := g) (d := none) (Nat.zero_le l)
      rw [hl] at h
      rcases hout : Exchange.waitOut g none (some l) 0 with ⟨c, d, waited⟩
      rw [hout] at h hle
      cases c with
      | none => cases h
      | some c => exact ⟨c, waited, Option.some.inj h, hle, fun hsome => by cases hsome⟩

/-! ## The count after steps -/

/-- **A step keeps the books,** whether it waits or not. -/
theorem step_counted {n : Nat} {s : ScenarioStep} {result : StepResult} (h : r.step s = some (r', result))
    (hc : Counted n r) : Counted n r' := by
  have hacc := attempt_account r s
  unfold step at h
  rcases ha : r.attempt s with ⟨q, progress⟩
  rw [ha] at h hacc
  cases progress with
  | ended result' =>
    cases h
    exact hacc.counted hc
  | waiting p g =>
    obtain ⟨hs, hcount⟩ := hacc.held hc
    obtain ⟨c, waited, hq, _⟩ := await_eq_some h
    have hr' : r' = (q.conclude p c waited).1 := by rw [hq]
    rw [hr', Counted, conclude_count, conclude_session, hs, hcount]
    rfl

/-- Playing one step and then the others. -/
theorem play_cons {s : ScenarioStep} {rest : List ScenarioStep} {i : Nat} {results : List StepResult}
    (h : r.play i (s :: rest) = some (r', results)) :
    ∃ q result later, r.step s = some (q, result) ∧
      (q.say (remark i result)).play (i + 1) rest = some (r', later) ∧ results = result :: later := by
  rw [play] at h
  cases hs : r.step s with
  | none => rw [hs] at h; cases h
  | some step =>
    obtain ⟨q, result⟩ := step
    rw [hs] at h
    cases hp : (q.say (remark i result)).play (i + 1) rest with
    | none => simp only [bind, Option.bind, hp] at h; cases h
    | some later =>
      obtain ⟨q', results'⟩ := later
      simp only [bind, Option.bind, hp] at h
      cases h
      exact ⟨q, result, results', rfl, hp, rfl⟩

/-- **All steps together** keep the books. -/
theorem play_counted {n : Nat} {steps : List ScenarioStep} {i : Nat} {results : List StepResult}
    (h : r.play i steps = some (r', results)) (hc : Counted n r) : Counted n r' := by
  induction steps generalizing r i results with
  | nil => cases h; exact hc
  | cons s rest ih =>
    obtain ⟨q, result, later, hs, hp, _⟩ := play_cons h
    have hq : Counted n q := step_counted hs hc
    exact ih (r := q.say (remark i result)) hp hq

/-- **A controller that goes away** takes the unit of an open session with it. -/
theorem count_dismiss {n : Nat} (h : Counted n r) : r.dismiss.activity.count = n := by
  unfold Counted at h
  unfold dismiss Controller.dismiss
  cases hs : r.controller.session with
  | none =>
    rw [hs] at h
    exact h
  | some session =>
    rw [hs] at h
    show r.commons.activity.count - 1 = n
    rw [h]
    rfl

/-! ## The time that steps take -/

/-- For how long a step waits at most. -/
def patience (limit : Option Nat) (s : ScenarioStep) : Nat := if leavesOpen s then limit.getD 0 else 0

/-- **A step takes no time** unless it leaves a dialog open; then it takes no longer than the limit. -/
theorem step_elapsed {s : ScenarioStep} {result : StepResult} (h : r.step s = some (r', result)) :
    r'.elapsed ≤ r.elapsed + patience r.controller.limit s ∧ r'.controller.limit = r.controller.limit := by
  have hacc := attempt_account r s
  unfold step at h
  rcases ha : r.attempt s with ⟨q, progress⟩
  rw [ha] at h hacc
  cases progress with
  | ended result' =>
    cases h
    exact ⟨by rw [hacc.elapsed]; omega, hacc.limit⟩
  | waiting p g =>
    -- The step itself takes no time, so all of it is the wait.
    obtain ⟨c, waited, hq, hwaited, hzero⟩ := await_eq_some h
    have hr' : r' = (q.conclude p c waited).1 := by rw [hq]
    rw [hr', conclude_elapsed, conclude_limit, hacc.elapsed]
    refine ⟨?_, hacc.limit⟩
    unfold patience
    cases hs : leavesOpen s with
    | true =>
      rw [hacc.limit] at hwaited
      simp only [if_true]
      omega
    | false =>
      have hnow := hzero (hacc.reply hs)
      omega

/-- **All steps together** take no longer than the limit for every dialog that is left open. -/
theorem play_elapsed {steps : List ScenarioStep} {i : Nat} {results : List StepResult}
    (h : r.play i steps = some (r', results)) :
    r'.elapsed ≤ r.elapsed + steps.countP leavesOpen * r.controller.limit.getD 0 := by
  induction steps generalizing r i results with
  | nil => cases h; simp
  | cons s rest ih =>
    obtain ⟨q, result, later, hs, hp, _⟩ := play_cons h
    obtain ⟨hle, hl⟩ := step_elapsed hs
    have hrest : r'.elapsed ≤ q.elapsed + rest.countP leavesOpen * q.controller.limit.getD 0 :=
      ih (r := q.say (remark i result)) hp
    rw [hl] at hrest
    rw [List.countP_cons]
    unfold patience at hle
    cases hopen : leavesOpen s with
    | true =>
      rw [hopen, if_pos rfl] at hle
      rw [if_pos rfl, Nat.add_mul, Nat.one_mul]
      omega
    | false =>
      simp only [hopen, Bool.false_eq_true, if_false] at hle ⊢
      rw [Nat.add_zero]
      omega

end Kanban.Replay
