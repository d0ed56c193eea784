import Kanban.Proofs.Drag.Sessions
import Kanban.Proofs.Drag.Stages

/-!
# `Proofs.Drag.Release` — what becomes of a release

A release takes the session and judges it by what is there at that moment: the recorded target, the
container that the card is in, the drop zones, the board's lock. From then on only two things can change its
course, whatever others do to the board, to its lock and to the gates: the lock at the end, and the
confirmation if it asks for one.

## Contents
- `asking_step`, `ending_step`: a release keeps to its course.
- `EndsWith`, `Asks`: a release that asks nobody, and one that asks, up to its end.
- `endsWith_of_judge`, `asks_of_judge`: which of the two it is.
- `release_outcome`: every release of every run.
-/

namespace Kanban.Scene

variable {κ : Type} {w : Scene κ}

/-! ## Keeping to a course -/

/-- A step of a release leaves the session alone, which is taken already. -/
theorem ReleaseStep.session {e : Event κ} {next : Scene κ × Note κ} (h : ReleaseStep w e next) :
    next.1.controller.session = w.controller.session := by
  cases h <;> rfl

/-- A release that asks goes on asking the same at the same gate, or ends with what it hears there, or is
    given up. -/
theorem asking_step {p : Pending κ} {gate : Nat} (h : w.Asking p gate) (e : Event κ) :
    (w.step e).1.Asking p gate ∨
      ((w.step e).1.stage = .free ∧ (e = .cancel ∨ ∃ c, e = .poll ∧ w.heard = some c ∧
        (w.step e).2 = w.verdict (if c.isAccepted then .committed p.target else .declined p.target c))) := by
  have hrelease := releaseStep_of_releasing h.releasing e
  generalize w.step e = next at hrelease ⊢
  cases hrelease with
  | beside he hn => exact Or.inl h
  | settles hs => exact absurd hs h.not_ending
  | begins hs =>
    obtain ⟨rfl, rfl⟩ := h.of_calling hs
    exact Or.inl (Or.inr ⟨0, rfl⟩)
  | @passes _ _ waited ms hs =>
    obtain ⟨rfl, rfl⟩ := h.of_waiting hs
    exact Or.inl (Or.inr ⟨waited + ms, rfl⟩)
  | @concludes _ _ _ c hs hc =>
    obtain ⟨rfl, rfl⟩ := h.of_waiting hs
    exact Or.inr ⟨rfl, Or.inr ⟨c, rfl, hc, rfl⟩⟩
  | cancels hs => exact Or.inr ⟨rfl, Or.inl rfl⟩

/-- A release that has something to hear ends when it looks at its gate. -/
theorem poll_of_heard {p : Pending κ} {gate : Nat} (h : w.Asking p gate) (hh : w.heard.isSome = true) :
    (w.step .poll).1.stage = .free := by
  have hrelease := releaseStep_of_releasing h.releasing .poll
  generalize w.step .poll = next at hrelease ⊢
  cases hrelease with
  | beside he hn =>
    rcases h with h | ⟨waited, h⟩
    · simp [heard, h] at hh
    · simp [concerns, h, hh] at he
  | concludes hs hc => rfl

/-- A release that asks nobody goes on as it is until it ends. -/
theorem ending_step {x : Session} {ending : Ending} (h : w.stage = .ending x ending) (e : Event κ) :
    (e ≠ .settle ∧ (w.step e).1.stage = .ending x ending) ∨
      (e = .settle ∧ (w.step e).1.stage = .free ∧ (w.step e).2 = w.verdict ending.outcome) := by
  have hreleasing : w.releasing = true := by simp [releasing, h]
  have hrelease := releaseStep_of_releasing hreleasing e
  generalize w.step e = next at hrelease ⊢
  cases hrelease with
  | beside he hn =>
    refine Or.inl ⟨?_, h⟩
    intro hsettle
    simp [concerns, h, hsettle] at he
  | settles hs =>
    rw [h] at hs
    cases hs
    exact Or.inr ⟨rfl, rfl, rfl⟩
  | begins hs => rw [h] at hs; cases hs
  | passes ms hs => rw [h] at hs; cases hs
  | concludes hs hc => rw [h] at hs; cases hs
  | cancels hs => rw [h] at hs; cases hs

theorem asking_of_lasts {p : Pending κ} {gate : Nat} {es : List (Event κ)} (h : w.Asking p gate)
    (hes : w.Lasts es) : (w.run es).Asking p gate := by
  refine hes.keeps (P := fun u => u.Asking p gate) h fun u e _ hreleasing hu => ?_
  rcases asking_step hu e with hstep | ⟨hfree, _⟩
  · exact hstep
  · exact absurd hreleasing (not_releasing_of_free hfree)

theorem ending_of_lasts {x : Session} {ending : Ending} {es : List (Event κ)}
    (h : w.stage = .ending x ending) (hes : w.Lasts es) : (w.run es).stage = .ending x ending := by
  refine hes.keeps (P := fun u => u.stage = .ending x ending) h fun u e _ hreleasing hu => ?_
  rcases ending_step hu e with ⟨_, hstep⟩ | ⟨_, hfree, _⟩
  · exact hstep
  · exact absurd hreleasing (not_releasing_of_free hfree)

/-- A release has taken the session, and none is opened as long as it lasts, nor when it ends. -/
theorem session_of_lasts {es : List (Event κ)} (hs : w.controller.session = none) (hes : w.Lasts es)
    (last : Event κ) : ((w.run es).step last).1.controller.session = none := by
  have hkept : (w.run es).releasing = true ∧ (w.run es).controller.session = none := by
    refine hes.keeps (P := fun u => u.releasing = true ∧ u.controller.session = none)
      ⟨hes.releasing, hs⟩ fun u e hu hreleasing h => ?_
    exact ⟨hreleasing, (releaseStep_of_releasing hu e).session.trans h.2⟩
  exact (releaseStep_of_releasing hkept.1 last).session.trans hkept.2

/-! ## The two courses -/

/-- **A release that asks nobody** and stands for an outcome. It looks at the board once more, and tells the
    outcome unless the board has been poisoned since its first look. -/
structure EndsWith (w : Scene κ) (o : DropOutcome) : Prop where
  /-- It is in progress after its first look. -/
  begins : (w.step .release).1.releasing = true
  /-- The outcome is told if nobody acts between the two looks. -/
  atOnce : ((w.step .release).1.step .settle).2 = .outcome o
  /-- Whatever others do between the two looks, the second one ends the release, and nothing else does. -/
  ends : ∀ es, (w.step .release).1.Lasts es →
    let u := (w.step .release).1.run es
    (u.step .settle).2 = u.verdict o ∧ ∀ last, (u.step last).1.stage = .free ↔ last = .settle
  /-- Nobody is called from the release to its end. -/
  calls : ∀ es last, (w.step .release).1.Lasts es → w.calls (.release :: (es ++ [last])) = []

/-- **A release that asks** for a confirmation, at a gate of its own. -/
structure Asks (w : Scene κ) (p : Pending κ) : Prop where
  /-- It calls, and is in progress from then on. -/
  begins : (w.step .release).2.call = some p ∧ (w.step .release).1.releasing = true
  /-- The callback is called once from the release to its end, and nobody else is. -/
  calls : ∀ es last, (w.step .release).1.Lasts es → w.calls (.release :: (es ++ [last])) = [p]
  /-- Unless the release is given up, it ends with the confirmation that it hears. -/
  ends : ∀ es last, (w.step .release).1.Lasts es → last ≠ .cancel →
    let u := (w.step .release).1.run es
    (u.step last).1.stage = .free → ∃ c, u.heard = some c ∧
      (u.step last).2 = u.verdict (if c.isAccepted then .committed p.target else .declined p.target c)
  /-- All along it asks at its gate, and once there is something to hear it ends when it looks. -/
  hears : ∀ es, (w.step .release).1.Lasts es →
    let u := (w.step .release).1.run es
    u.Asking p w.gates.length ∧ (u.heard.isSome = true → (u.step .poll).1.stage = .free)

theorem verdict_of_clean (h : w.commons.poisoned = false) (o : DropOutcome) :
    w.verdict o = .outcome o := by
  simp [verdict, h]

section

variable {x : Session} (hf : w.stage = .free) (hx : w.controller.session = some x)

include hf hx

/-- A release looks at the board and judges the session, which is taken from then on. -/
theorem step_release (hp : w.commons.poisoned = false) :
    ∃ next,
      (match w.controller.judge w.commons.board x with
        | .ok p => w.step .release = (next, .calling p w.gates.length) ∧
            next.stage = .calling p w.gates.length
        | .error ending => w.step .release = (next, .ending) ∧ next.stage = .ending x ending) ∧
      next.controller.session = none ∧ next.commons = w.commons := by
  have hjudge : ({ w.controller with phase := .idle, session := none } : Controller κ).judge
      w.commons.board x = w.controller.judge w.commons.board x := rfl
  have hstep : w.step .release = w.release := step_free hf _
  rw [hstep]
  unfold release
  rw [Controller.release_ok hx hp, hjudge]
  cases w.controller.judge w.commons.board x with
  | ok p => exact ⟨_, ⟨rfl, rfl⟩, rfl, rfl⟩
  | error ending => exact ⟨_, ⟨rfl, rfl⟩, rfl, rfl⟩

/-- On a poisoned board a release is over at once, and the session is lost with it. -/
theorem step_release_of_poisoned (hp : w.commons.poisoned = true) :
    w.step .release = ({ w with
      controller := { w.controller with phase := .idle, session := none },
      commons := w.commons.unhold }, .refused .boardUnavailable) := by
  have hstep : w.step .release = w.release := step_free hf _
  rw [hstep]
  unfold release
  rw [Controller.release_poisoned hx hp]
  rfl

/-- A release takes the session, on whatever board. -/
theorem session_of_release : (w.step .release).1.controller.session = none := by
  cases hp : w.commons.poisoned with
  | true => rw [step_release_of_poisoned hf hx hp]
  | false =>
    obtain ⟨next, hcourse, hnone, _⟩ := step_release hf hx hp
    cases hj : w.controller.judge w.commons.board x with
    | ok p =>
      rw [hj] at hcourse
      rw [hcourse.1, hnone]
    | error ending =>
      rw [hj] at hcourse
      rw [hcourse.1, hnone]

/-- What is judged to end without asking ends so. -/
theorem endsWith_of_judge {ending : Ending} (hp : w.commons.poisoned = false)
    (hj : w.controller.judge w.commons.board x = .error ending) : w.EndsWith ending.outcome := by
  obtain ⟨next, hcourse, _, hcommons⟩ := step_release hf hx hp
  rw [hj] at hcourse
  obtain ⟨hstep, hstage⟩ := hcourse
  have hending : ∀ es, (w.step .release).1.Lasts es →
      ((w.step .release).1.run es).stage = .ending x ending := by
    intro es hes
    rw [hstep] at hes ⊢
    exact ending_of_lasts hstage hes
  constructor
  · rw [hstep]
    simp [releasing, hstage]
  · rw [hstep]
    rcases ending_step hstage .settle with ⟨hne, _⟩ | ⟨_, _, hnote⟩
    · exact absurd rfl hne
    · rw [hnote]
      exact verdict_of_clean (hcommons ▸ hp) _
  · intro es hes u
    constructor
    · rcases ending_step (hending es hes) .settle with ⟨hne, _⟩ | ⟨_, _, hnote⟩
      · exact absurd rfl hne
      · exact hnote
    · intro last
      rcases ending_step (hending es hes) last with ⟨hne, hstay⟩ | ⟨hsettle, hfree, _⟩
      · simp [u, hne, hstay]
      · exact ⟨fun _ => hsettle, fun _ => hfree⟩
  · intro es last hes
    rw [hstep] at hes
    rw [calls, hstep, calls_of_lasts hes last]
    rfl

/-- What is judged to ask does so. -/
theorem asks_of_judge {p : Pending κ} (hp : w.commons.poisoned = false)
    (hj : w.controller.judge w.commons.board x = .ok p) : w.Asks p := by
  obtain ⟨next, hcourse, _⟩ := step_release hf hx hp
  rw [hj] at hcourse
  obtain ⟨hstep, hstage⟩ := hcourse
  have hasking : ∀ es, (w.step .release).1.Lasts es →
      ((w.step .release).1.run es).Asking p w.gates.length := by
    intro es hes
    rw [hstep] at hes ⊢
    exact asking_of_lasts (Or.inl hstage) hes
  constructor
  · rw [hstep]
    exact ⟨rfl, Asking.releasing (Or.inl hstage)⟩
  · intro es last hes
    rw [hstep] at hes
    rw [calls, hstep, calls_of_lasts hes last]
    rfl
  · intro es last hes hcancel u hfree
    rcases asking_step (hasking es hes) last with hstay | ⟨_, hgivenUp | ⟨c, _, hheard, hnote⟩⟩
    · exact absurd hstay.releasing (not_releasing_of_free hfree)
    · exact absurd hgivenUp hcancel
    · exact ⟨c, hheard, hnote⟩
  · intro es hes u
    exact ⟨hasking es hes, poll_of_heard (hasking es hes)⟩

end

/-! ## Every release -/

/-- **What becomes of a release,** in every run of a controller on whatever board.
    - Without a session it is refused and changes nothing.
    - Otherwise it takes the session, which remembers the card as it was on the board when it was taken up.
    - On a poisoned board it is refused at once and calls nobody.
    - It ends without a target if none was recorded, or if the zone of the recorded one is gone by now. It
      ends where the card is if that is the recorded target by now. It calls nobody in these cases.
    - In all other cases it asks by the callback that the zone of the target has now. -/
theorem release_outcome (viewport : Viewport) (s : Commons) (before : List (Event κ)) :
    let first : Scene κ := Scene.new (Controller.new viewport) s
    let w := first.run before
    w.stage = .free →
      (w.controller.session = none → w.step .release = (w, .refused .noActiveDrag)) ∧
      ∀ x, w.controller.session = some x →
        let owner := (w.commons.board.card? x.card).map (·.container)
        (∃ found, first.taken before = some (x.card, found) ∧ x.issue = found.issue ∧
          x.origin = found.container) ∧
        (w.step .release).1.controller.session = none ∧
        (∀ es last, (w.step .release).1.Lasts es →
          (((w.step .release).1.run es).step last).1.controller.session = none) ∧
        (w.commons.poisoned = true → (w.step .release).2 = .refused .boardUnavailable ∧
          (w.step .release).1.stage = .free ∧ w.calls [.release] = []) ∧
        (w.commons.poisoned = false →
          (x.target = none → w.EndsWith .noTarget) ∧
          ∀ t, x.target = some t →
            (owner = some t → w.EndsWith (.sameContainer t)) ∧
            (owner ≠ some t → w.controller.zones.callback? t = none → w.EndsWith .noTarget) ∧
            ∀ callback, owner ≠ some t → w.controller.zones.callback? t = some callback →
              w.Asks ⟨x, t, callback⟩) := by
  intro first w hf
  constructor
  · intro hx
    have hstep : w.step .release = w.release := step_free hf _
    rw [hstep, release, Controller.release_none hx]
    rfl
  intro x hx owner
  have hrecalls : Recalls (first.taken before) w :=
    recalls_run (fun _ hnew => by cases hnew) before
  obtain ⟨found, htaken, hissue, horigin, htarget⟩ := hrecalls x hx
  have hnone := session_of_release hf hx
  refine ⟨⟨found, htaken, hissue, horigin⟩, hnone, fun es last hes => session_of_lasts hnone hes last,
    ?_, ?_⟩
  · intro hp
    have hstep := step_release_of_poisoned hf hx hp
    refine ⟨by rw [hstep], by rw [hstep]; exact hf, ?_⟩
    rw [calls, hstep]
    rfl
  · intro hp
    refine ⟨fun ht => endsWith_of_judge hf hx hp (Controller.judge_nowhere ht _), fun t ht => ?_⟩
    -- A drop on the origin is never recorded, so the owner alone decides.
    have ho : t ≠ x.origin := by
      intro heq
      exact htarget (by rw [ht, heq])
    refine ⟨fun howner => ?_, fun howner hz => ?_, fun callback howner hz => ?_⟩
    · exact endsWith_of_judge hf hx hp (Controller.judge_sameContainer ht howner)
    · exact endsWith_of_judge hf hx hp (Controller.judge_zoneGone ht ho howner hz)
    · exact asks_of_judge hf hx hp (Controller.judge_asks ht ho howner hz)

/-- The card is dropped on a column whose callback is exchanged before the release. -/
def exchanged : List (Event Nat) :=
  [.edit (.addContainer "todo" true), .edit (.addContainer "done" true),
    .edit (.addCard "todo" "c1" (.flag true) 100), .registerZone "done" (some 1),
    .registerDraggable "c1" true, .start "c1" 0, .dropOn "done", .registerZone "done" (some 2)]

/-- While the release lasts, the board is poisoned and healed, and the dialog says yes. -/
def healedAndAnswered : List (Event Nat) :=
  [.poison, .callbackReturns, .pass 5, .heal, .edit (.transfer "c1" "done"), .answer 0 true]

/-- The new callback is called, once, with the issue of the card that was taken up. -/
theorem release_outcome_exchanged :
    let first : Scene Nat := Scene.new (Controller.new ⟨⟨0, 500⟩, 500, 0⟩) (.ofBoard .empty)
    let w := first.run exchanged
    w.stage = .free ∧ (w.step .release).1.Lasts healedAndAnswered ∧
      ∃ x found, w.controller.session = some x ∧ first.taken exchanged = some (x.card, found) ∧
        x.issue = found.issue ∧ w.Asks ⟨x, "done", 2⟩ ∧
        w.calls (.release :: (healedAndAnswered ++ [.poll])) = [⟨x, "done", 2⟩] := by
  have hrelease := release_outcome ⟨⟨0, 500⟩, 500, 0⟩ (.ofBoard .empty) exchanged
  have hfacts :
      let w : Scene Nat := (Scene.new (Controller.new ⟨⟨0, 500⟩, 500, 0⟩) (.ofBoard .empty)).run exchanged
      w.isFree = true ∧ (w.step .release).1.Lasts healedAndAnswered ∧
        w.controller.session.isSome = true ∧ w.commons.poisoned = false ∧
        w.controller.zones.callback? "done" = some 2 ∧
        w.controller.session.bind (·.target) = some "done" ∧
        (w.controller.session.bind fun x => (w.commons.board.card? x.card).map (·.container)) ≠
          some "done" := by
    decide +kernel
  -- From here on the scene is whatever it is; only these facts about it matter.
  generalize (Scene.new (Controller.new ⟨⟨0, 500⟩, 500, 0⟩) (.ofBoard .empty) : Scene Nat) = first
    at hrelease hfacts ⊢
  intro _ w
  obtain ⟨hfree, hlasts, hsession, hclean, hz, htarget, howner⟩ := hfacts
  obtain ⟨x, hx⟩ := Option.isSome_iff_exists.mp hsession
  rw [hx] at htarget howner
  have hf : w.stage = .free := isFree_iff.mp hfree
  obtain ⟨⟨found, htaken, hissue, _⟩, _, _, _, hcourse⟩ := (hrelease hf).2 x hx
  have hasks : w.Asks ⟨x, "done", 2⟩ := ((hcourse hclean).2 "done" htarget).2.2 2 howner hz
  exact ⟨hf, hlasts, x, found, hx, htaken, hissue, hasks, hasks.calls _ _ hlasts⟩

end Kanban.Scene
