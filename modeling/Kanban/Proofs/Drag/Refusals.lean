import Kanban.Proofs.Drag.Activity
import Kanban.Proofs.Drag.InPlace
import Kanban.Proofs.Drag.Phases
import Kanban.Proofs.Drag.Release
import Kanban.Proofs.Drag.Targets
import Kanban.Proofs.Drag.Unmoved

/-!
# `Proofs.Drag.Refusals` — a refusal leaves a drag as it is

An operation of a controller can be refused in the middle of what it changes. A start is refused before it
changes anything, also in the middle of another drag; so is whatever needs a session when there is none. A drop
for which the board cannot be asked forgets what the card was over, and nothing else. Only a release that finds
the board poisoned, at once or at its end, is the end of the drag: it gives the unit of activity back and leaves
the board to the others.

## Contents
- `start_refused`, `dropOn_refused`, `release_refused`, `refused_noActiveDrag`: every refusal of an operation in
  place, and what it leaves behind.
- `Event.amids`, `commons_of_lasts`: what others do to the shared things during a release.
- `Scene.Unavailable`, `unavailable_ends`: a release that is told that the board is not available.
- `Scene.Spared`, `session_of_spared`: a session among refused starts and drops.
- `Scene.GoesOn`, `goesOn_of_session`: a drag that can be continued and released.
- `refusals_leave_drag`: all refusals of every run.
-/

namespace Kanban

/-! ## Refused operations in place -/

namespace Operation

open Controller Controller.InPlace

variable {κ : Type} {b after : Bench κ} {fault : Fault}

/-- **A start that is refused** has changed nothing, and no callback has run. -/
theorem start_refused {card : String} {left : Float}
    (h : (Operation.start card left).inPlace.run b = .error fault after) :
    after = b ∧ ((∃ x, b.controller.session = some x ∧ fault = .dragInProgress x.card) ∨
      fault = .notDraggable card ∨ fault = .boardUnavailable ∨ fault = .unknownCard card) := by
  have hrun := (start_inPlace b card left).symm.trans h
  cases hstart : b.controller.start b.commons card left with
  | ok result =>
    rw [hstart] at hrun
    cases hrun
  | error reason =>
    rw [hstart] at hrun
    cases hrun
    refine ⟨rfl, ?_⟩
    obtain hsession | ⟨_, ⟨_, rfl⟩ | ⟨_, ⟨_, rfl⟩ | ⟨_, _, rfl⟩⟩⟩ := start_eq_error.mp hstart
    · exact Or.inl hsession
    · exact Or.inr (Or.inl rfl)
    · exact Or.inr (Or.inr (Or.inl rfl))
    · exact Or.inr (Or.inr (Or.inr rfl))

/-- **A move** is refused for want of a session only. -/
theorem move_refused {left : Float} (h : (Operation.move left).inPlace.run b = .error fault after) :
    b.controller.session = none ∧ fault = .noActiveDrag ∧ after = b := by
  have hrun := (move_inPlace b left).symm.trans (discard_eq_error.mp h)
  cases hs : b.controller.session with
  | none =>
    rw [Controller.move, hs] at hrun
    cases hrun
    exact ⟨rfl, rfl, rfl⟩
  | some x =>
    rw [Controller.move, hs] at hrun
    cases hrun

/-- **A drop that is refused** in the middle of a drag has forgotten what the card was over. -/
theorem dropOn_refused {target : String}
    (h : (Operation.dropOn target).inPlace.run b = .error fault after) :
    (b.controller.session = none ∧ fault = .noActiveDrag ∧ after = b) ∨
      ∃ x, b.controller.session = some x ∧ (fault = .unknownContainer target ∨ fault = .boardUnavailable) ∧
        after = { b with controller := b.controller.aimed x none } := by
  have hrun := (dropOn_inPlace b target).symm.trans (discard_eq_error.mp h)
  cases hs : b.controller.session with
  | none =>
    rw [dropOn_none hs] at hrun
    cases hrun
    exact Or.inl ⟨rfl, rfl, rfl⟩
  | some x =>
    rw [dropOn_of_session hs] at hrun
    cases hresult : b.controller.dropResult b.commons x target with
    | ok counts =>
      rw [hresult] at hrun
      cases hrun
    | error reason =>
      rw [hresult] at hrun
      cases hrun
      refine Or.inr ⟨x, rfl, ?_, rfl⟩
      obtain ⟨_, ⟨_, rfl⟩ | ⟨_, _, rfl⟩⟩ := dropResult_eq_error.mp hresult
      · exact Or.inr rfl
      · exact Or.inl rfl

/-- **A release that is refused at once** in the middle of a drag has taken the session and given its unit of
    activity back. -/
theorem release_refused (h : Operation.release.inPlace.run b = .error fault after) :
    (b.controller.session = none ∧ fault = .noActiveDrag ∧ after = b) ∨
      ∃ x, b.controller.session = some x ∧ fault = .boardUnavailable ∧
        after = { b with
          controller := { b.controller with phase := .idle, session := none }, commons := b.commons.unhold } := by
  have hrun := (release_inPlace b).symm.trans (discard_eq_error.mp h)
  cases hs : b.controller.session with
  | none =>
    rw [release_none hs] at hrun
    cases hrun
    exact Or.inl ⟨rfl, rfl, rfl⟩
  | some x =>
    cases hp : b.commons.poisoned with
    | true =>
      rw [release_poisoned hs hp] at hrun
      cases hrun
      exact Or.inr ⟨x, rfl, rfl, rfl⟩
    | false =>
      rw [release_ok hs hp] at hrun
      cases hj : ({ b.controller with phase := .idle, session := none } : Controller κ).judge
          b.commons.board x with
      | ok p => rw [hj] at hrun; cases hrun
      | error ending => rw [hj] at hrun; cases hrun

/-- **Whatever is refused for want of a session** has changed nothing. -/
theorem refused_noActiveDrag {o : Operation} (h : o.inPlace.run b = .error .noActiveDrag after) :
    b.controller.session = none ∧ after = b := by
  cases o with
  | start card left =>
    obtain ⟨_, ⟨_, _, hfault⟩ | hfault | hfault | hfault⟩ := start_refused h <;> cases hfault
  | move left =>
    obtain ⟨hs, _, hafter⟩ := move_refused h
    exact ⟨hs, hafter⟩
  | dropOn target =>
    obtain ⟨hs, _, hafter⟩ | ⟨_, _, hfault | hfault, _⟩ := dropOn_refused h
    · exact ⟨hs, hafter⟩
    · cases hfault
    · cases hfault
  | release =>
    obtain ⟨hs, _, hafter⟩ | ⟨_, _, hfault, _⟩ := release_refused h
    · exact ⟨hs, hafter⟩
    · cases hfault

end Operation

namespace Scene

variable {κ : Type} {w : Scene κ}

/-! ## A release that is told that the board is not available -/

/-- What others do to the shared things in several events. -/
def amids (s : Commons) (es : List (Event κ)) : Commons := es.foldl (fun s e => e.amid s) s

/-- A step of a release that is not over changes nothing shared, beside what others do. -/
theorem ReleaseStep.commons {e : Event κ} {next : Scene κ × Note κ} (h : ReleaseStep w e next)
    (hnext : next.1.releasing = true) : next.1.commons = e.amid w.commons := by
  cases h with
  | beside he hn => rfl
  | settles hs => cases hnext
  | begins hs => rfl
  | passes ms hs => rfl
  | concludes hs hc => cases hnext
  | cancels hs => cases hnext

/-- Nor does a release as long as it lasts. -/
theorem commons_of_lasts {es : List (Event κ)} (hes : w.Lasts es) :
    (w.run es).commons = amids w.commons es := by
  induction es generalizing w with
  | nil => rfl
  | cons e rest ih =>
    have hfirst : (w.step e).1.commons = e.amid w.commons :=
      (releaseStep_of_releasing hes.1 e).commons hes.2.releasing
    rw [run_cons, ih hes.2, hfirst]
    rfl

/-- A step of a release changes nothing about the controller but what others see of it. -/
theorem ReleaseStep.controller {e : Event κ} {next : Scene κ × Note κ} (h : ReleaseStep w e next) :
    ∃ phase, next.1.controller = { w.controller with phase } := by
  cases h <;> exact ⟨_, rfl⟩

/-- Nor does a release as long as it lasts, nor when it ends. -/
theorem controller_of_lasts {es : List (Event κ)} (hes : w.Lasts es) (last : Event κ) :
    ∃ phase, ((w.run es).step last).1.controller = { w.controller with phase } := by
  have hkept : ∃ phase, (w.run es).controller = { w.controller with phase } := by
    refine hes.keeps (P := fun u => ∃ phase, u.controller = { w.controller with phase }) ⟨_, rfl⟩ ?_
    rintro u e hu _ ⟨phase, hc⟩
    obtain ⟨phase', hc'⟩ := (releaseStep_of_releasing hu e).controller
    exact ⟨phase', by rw [hc', hc]⟩
  obtain ⟨phase, hc⟩ := hkept
  obtain ⟨phase', hc'⟩ := (releaseStep_of_releasing hes.releasing_run last).controller
  exact ⟨phase', by rw [hc', hc]⟩

/-- **A release that is told that the board is not available,** with all that happens from its beginning to that
    moment: the release alone if its first look fails, or the release, what happens as long as it lasts, and its
    end. -/
inductive Unavailable (w : Scene κ) : List (Event κ) → Prop where
  | atOnce (h : (w.step .release).2 = .refused .boardUnavailable) : w.Unavailable [.release]
  | atEnd {es : List (Event κ)} {last : Event κ} (hes : (w.step .release).1.Lasts es)
      (hfree : (((w.step .release).1.run es).step last).1.stage = .free)
      (h : (((w.step .release).1.run es).step last).2 = .refused .boardUnavailable) :
      w.Unavailable (.release :: (es ++ [last]))

/-- What such a release leaves behind: no session, a unit of activity less, and everything else as others have
    left it. -/
structure Ended (w : Scene κ) (history : List (Event κ)) : Prop where
  stage : (w.run history).stage = .free
  controller : (w.run history).controller = { w.controller with phase := .idle, session := none }
  commons : (w.run history).commons = (amids w.commons history).unhold

/-- A step that ends a release with a refusal has found the board poisoned. -/
theorem ReleaseStep.commons_of_refused {e : Event κ} {next : Scene κ × Note κ} (h : ReleaseStep w e next)
    (hw : w.releasing = true) (hfree : next.1.stage = .free) (hnote : next.2 = .refused .boardUnavailable) :
    next.1.commons = (e.amid w.commons).unhold := by
  have hpoisoned : ∀ o, w.verdict o = .refused .boardUnavailable → w.commons.poisoned = true := by
    intro o ho
    cases hp : w.commons.poisoned with
    | true => rfl
    | false =>
      rw [verdict_of_clean hp] at ho
      cases ho
  cases h with
  | beside he hn => exact absurd hw (not_releasing_of_free hfree)
  | settles hs =>
    show (w.commons.letGo _).1 = _
    rw [Commons.letGo_of_poisoned _ (hpoisoned _ hnote)]
    rfl
  | begins hs => cases hfree
  | passes ms hs => cases hfree
  | concludes hs hc =>
    show (w.commons.letGo _).1 = _
    rw [Commons.letGo_of_poisoned _ (hpoisoned _ hnote)]
    rfl
  | cancels hs => cases hnote

/-- A first look at a board in good order is not refused and changes nothing shared. -/
theorem release_looks (hf : w.stage = .free) {x : Session} (hx : w.controller.session = some x)
    (hp : w.commons.poisoned = false) :
    (w.step .release).1.commons = w.commons ∧ ∀ fault, (w.step .release).2 ≠ .refused fault := by
  obtain ⟨next, hcourse, _, hcommons⟩ := step_release hf hx hp
  cases hj : w.controller.judge w.commons.board x with
  | ok p =>
    rw [hj] at hcourse
    rw [hcourse.1]
    exact ⟨hcommons, fun _ h => by cases h⟩
  | error ending =>
    rw [hj] at hcourse
    rw [hcourse.1]
    exact ⟨hcommons, fun _ h => by cases h⟩

/-- A release that goes on after its first look has taken the session, and nothing else. -/
theorem release_begun (hf : w.stage = .free) {x : Session} (hx : w.controller.session = some x)
    (h : (w.step .release).1.releasing = true) :
    (w.step .release).1.controller = { w.controller with phase := .idle, session := none } ∧
      (w.step .release).1.commons = w.commons := by
  constructor
  · have htaken : (w.step .release).1.controller.session = none := session_of_release hf hx
    have hstep : w.step .release = w.release := step_free hf _
    rw [hstep] at htaken ⊢
    obtain hsame | hc := controller_of_release w
    · rw [hsame, hx] at htaken
      cases htaken
    · exact hc
  · cases hp : w.commons.poisoned with
    | true =>
      rw [step_release_of_poisoned hf hx hp] at h
      exact absurd h (not_releasing_of_free hf)
    | false => exact (release_looks hf hx hp).1

/-- **A release that is told that the board is not available** ends the drag. -/
theorem unavailable_ends (hw : w.PhaseOfPosture) {x : Session} (hx : w.controller.session = some x)
    {history : List (Event κ)} (h : w.Unavailable history) : w.Ended history := by
  have hf : w.stage = .free := isFree_iff.mp (isFree_of_session hw.quiet hx)
  cases h with
  | atOnce hnote =>
    have hp : w.commons.poisoned = true := by
      cases hp : w.commons.poisoned with
      | true => rfl
      | false => exact absurd hnote ((release_looks hf hx hp).2 _)
    have hrun : w.run [.release] = (w.step .release).1 := rfl
    rw [step_release_of_poisoned hf hx hp] at hrun
    constructor <;> rw [hrun]
    · exact hf
    · rfl
  | @atEnd es last hes hfree hnote =>
    obtain ⟨hcontroller, hcommons⟩ := release_begun hf hx hes.releasing
    have hrun : w.run (.release :: (es ++ [last])) = (((w.step .release).1.run es).step last).1 := by
      rw [run_cons, run_append]
      rfl
    have hlasts := hes.releasing_run
    have hend := (releaseStep_of_releasing hlasts last).commons_of_refused hlasts hfree hnote
    constructor
    · rw [hrun]
      exact hfree
    · -- What others see of a controller without a session that is free again is that it is idle.
      obtain ⟨phase, hc⟩ := controller_of_lasts hes last
      rw [hcontroller] at hc
      have hposture : (w.run (.release :: (es ++ [last]))).PhaseOfPosture := (run_turns hw _).1
      have hidle := hposture.phase_of_free (by rw [hrun]; exact hfree)
      rw [hrun, hc] at hidle
      rw [hrun, hc]
      exact congrArg (fun p => { w.controller with phase := p, session := none }) hidle
    · rw [hrun, hend, commons_of_lasts hes, hcommons, amids, amids, List.foldl_cons, List.foldl_append]
      rfl

/-! ## A session among refused starts and drops -/

/-- Whether an event leaves a drag to itself: it is a start or a drop that is refused, or something that others
    do. -/
def spares (w : Scene κ) (e : Event κ) : Bool :=
  match e, (w.step e).2 with
  | .start _ _, .refused _ | .dropOn _, .refused _ => true
  | e, _ => !e.operates

/-- All of several events leave a drag to itself. -/
def Spared (w : Scene κ) : List (Event κ) → Prop
  | [] => True
  | e :: es => w.spares e = true ∧ (w.step e).1.Spared es

instance decidableSpared : (w : Scene κ) → (es : List (Event κ)) → Decidable (w.Spared es)
  | _, [] => inferInstanceAs (Decidable True)
  | w, e :: es =>
    have := decidableSpared (w.step e).1 es
    inferInstanceAs (Decidable (w.spares e = true ∧ (w.step e).1.Spared es))

/-- Whoever acts beside a controller that is free leaves it alone. -/
theorem controller_of_free (hf : w.stage = .free) {e : Event κ} (he : e.operates = false) :
    (w.step e).1.controller = w.controller := by
  cases e with
  | settle | callbackReturns | poll | cancel | pass =>
    simp [step, settle, callbackReturns, poll, cancel, pass, hf]
  | answer | abandon | edit | poison | heal | increment | decrement => rfl
  | _ => cases he

/-- **One event** that leaves a drag to itself keeps the session, which may have lost what its card was over. -/
theorem session_of_spares (hf : w.stage = .free) {x : Session} (hx : w.controller.session = some x)
    {e : Event κ} (h : w.spares e = true) :
    (w.step e).1.controller = w.controller ∨ (w.step e).1.controller = w.controller.aimed x none := by
  cases ho : e.operates with
  | false => exact Or.inl (controller_of_free hf ho)
  | true =>
    cases e with
    | start card left =>
      have hstep : w.step (.start card left) = w.start card left := step_free hf _
      rw [hstep, start, Controller.start_of_session hx]
      exact Or.inl rfl
    | dropOn target =>
      have hstep := step_dropOn (isFree_iff.mpr hf) hx target
      unfold spares at h
      rw [hstep] at h ⊢
      cases hresult : w.controller.dropResult w.commons x target with
      | error fault => exact Or.inr rfl
      | ok counts =>
        rw [hresult] at h
        cases h
    | move | release | dismiss | registerZone | registerDraggable | setLimit | setViewport =>
      cases h
    | _ => cases ho

/-- **Several events** that leave a drag to itself. -/
theorem session_of_spared (hq : w.Quiet) {x : Session} (hx : w.controller.session = some x)
    {es : List (Event κ)} (h : w.Spared es) :
    ∃ y, (y = x ∨ y = { x with target := none }) ∧
      (w.run es).controller = { w.controller with session := some y } := by
  induction es generalizing w x with
  | nil => exact ⟨x, Or.inl rfl, by rw [run_nil, ← hx]⟩
  | cons e rest ih =>
    have hf : w.stage = .free := isFree_iff.mp (isFree_of_session hq hx)
    obtain hsame | haimed := session_of_spares hf hx h.1
    · obtain ⟨y, hy, hc⟩ := ih (quiet_step hq e) (hsame ▸ hx) h.2
      exact ⟨y, hy, by rw [run_cons, hc, hsame]⟩
    · -- Once the target is forgotten there is nothing more to forget.
      obtain ⟨y, hy, hc⟩ := ih (x := { x with target := none }) (quiet_step hq e) (by rw [haimed]; rfl) h.2
      refine ⟨y, Or.inr ?_, by rw [run_cons, hc, haimed]; rfl⟩
      exact hy.elim id id

/-- **A drag that goes on:** its card can be moved, can be dropped where a drop counts, and can be released. -/
structure GoesOn (w : Scene κ) (x : Session) : Prop where
  session : w.controller.session = some x
  moves : ∀ left, ∃ offset, (w.step (.move left)).2 = .offset offset
  /-- After a drop that counts, a release asks by the callback of that zone. -/
  drops : ∀ t callback k, w.controller.zones.callback? t = some callback → w.commons.poisoned = false →
    w.commons.board.container? t = some k → k.droppable = true → t ≠ x.origin →
    w.commons.board.canAccept x.card t = true →
    (w.step (.dropOn t)).2 = .flag true ∧ (w.step (.dropOn t)).1.Asks ⟨{ x with target := some t }, t, callback⟩
  /-- A release takes the session, whatever comes of it. -/
  taken : (w.step .release).1.controller.session = none
  /-- On a board in good order it asks, or it ends without asking. -/
  releases : w.commons.poisoned = false →
    (∃ p, p.session = x ∧ w.Asks p) ∨ ∃ ending, w.EndsWith (Ending.outcome ending)

/-- Every drag goes on from wherever it is. -/
theorem goesOn_of_session (hq : w.Quiet) {x : Session} (hx : w.controller.session = some x) : w.GoesOn x := by
  have hfree : w.isFree = true := isFree_of_session hq hx
  have hf : w.stage = .free := isFree_iff.mp hfree
  refine ⟨hx, fun left => ?_, fun t callback k hz hp hk hopen hne haccept => ?_, session_of_release hf hx,
    fun hp => ?_⟩
  · have hstep : w.step (.move left) = w.move left := step_free hf _
    rw [hstep, move, Controller.move, hx]
    exact ⟨_, rfl⟩
  · have hresult : w.controller.dropResult w.commons x t = .ok true :=
      Controller.dropResult_eq_true.mpr
        ⟨DropZones.isRegistered_iff.mpr ⟨callback, hz⟩, hp, k, hk, hopen, hne, haccept⟩
    have hstep := step_dropOn hfree hx t
    rw [hresult] at hstep
    have howner : (w.commons.board.card? x.card).map (·.container) ≠ some t := by
      obtain ⟨c, hc, hc'⟩ := Board.canAccept_iff.mp haccept
      rw [hc]
      exact fun h => hc' (Option.some.inj h)
    have hj : (w.controller.aimed x (some t)).judge w.commons.board { x with target := some t } =
        .ok ⟨{ x with target := some t }, t, callback⟩ := Controller.judge_asks rfl hne howner hz
    rw [hstep]
    exact ⟨rfl, asks_of_judge (w := { w with controller := w.controller.aimed x (some t) }) hf rfl hp hj⟩
  · cases hj : w.controller.judge w.commons.board x with
    | ok p => exact Or.inl ⟨p, Controller.judge_session hj, asks_of_judge hf hx hp hj⟩
    | error ending => exact Or.inr ⟨ending, endsWith_of_judge hf hx hp hj⟩

/-! ## All refusals -/

/-- An operation that is refused in a scene is refused in place, and leaves behind what it leaves there. -/
theorem inPlace_of_refused {o : Operation} {fault : Fault} (h : (w.step o.event).2 = .refused fault)
    (calls : List (Call κ)) :
    ∃ after, o.inPlace.run (w.bench calls) = .error fault after ∧
      w.step o.event = (w.withController after.controller after.commons, .refused fault) := by
  have hoperates : (o.event : Event κ).operates = true := by cases o <;> rfl
  have hfree : w.isFree = true := by
    cases hf : w.isFree with
    | true => rfl
    | false =>
      rw [step_operates hoperates hf] at h
      cases h
  have hperforms := step_inPlace (isFree_iff.mp hfree) o calls
  unfold Performs at hperforms
  cases hrun : o.inPlace.run (w.bench calls) with
  | ok _ after =>
    rw [hrun] at hperforms
    obtain ⟨next, note, hstep, hnote, _⟩ := hperforms
    rw [hstep] at h
    exact absurd h (hnote fault)
  | error reason after =>
    rw [hrun] at hperforms
    obtain ⟨hstep, _⟩ := hperforms
    rw [hstep] at h
    cases h
    exact ⟨after, rfl, hstep⟩

/-- What others do to the board in several events. -/
theorem amids_board (s : Commons) (es : List (Event κ)) : (amids s es).board = s.board.attempts (edits es) := by
  induction es generalizing s with
  | nil => rfl
  | cons e rest ih =>
    have hrest : (amids s (e :: rest)).board = (e.amid s).board.attempts (edits rest) := ih (e.amid s)
    rw [hrest]
    cases e <;> rfl

/-- **Refusals leave a drag intact,** in every run of a controller, on whatever board and whoever acts beside it.
    What is refused is refused in place, in the middle of what it may have changed by then.
    - A start that is refused has changed nothing, whatever the reason, and neither has anything that is refused
      for want of a session: the board with its marks, the session with its target, the phase, the count, the
      registries and the viewport are as they were, and no callback has run.
    - Any other drop that is refused has only forgotten what the card was over. Any other release that is refused
      at once has only taken the session and given its unit of activity back.
    - A release that is told that the board is not available, at once or at its end, is the end of the drag. There
      is no session, the controller is idle, the unit of activity is given back, and all else that is shared is
      what others have made of it.
    - After any number of refused starts and drops, and whatever others do in between, the drag can be continued
      and released. -/
theorem refusals_leave_drag (viewport : Viewport) (s : Commons) (before : List (Event κ))
    (calls : List (Call κ)) :
    let first : Scene κ := Scene.new (Controller.new viewport) s
    let w := first.run before
    let here := w.bench calls
    (∀ (o : Operation) fault, (w.step o.event).2 = .refused fault →
      ∃ after, o.inPlace.run here = .error fault after ∧
        w.step o.event = (w.withController after.controller after.commons, .refused fault)) ∧
    (∀ card left fault after, (Operation.start card left).inPlace.run here = .error fault after →
      after = here ∧ ((∃ x, w.controller.session = some x ∧ fault = .dragInProgress x.card) ∨
        fault = .notDraggable card ∨ fault = .boardUnavailable ∨ fault = .unknownCard card)) ∧
    (∀ (o : Operation) after, o.inPlace.run here = .error .noActiveDrag after →
      w.controller.session = none ∧ after = here) ∧
    (∀ t fault after, (Operation.dropOn t).inPlace.run here = .error fault after → fault ≠ .noActiveDrag →
      (fault = .unknownContainer t ∨ fault = .boardUnavailable) ∧
        ∃ x, w.controller.session = some x ∧
          after = { here with controller := { w.controller with session := some { x with target := none } } }) ∧
    (∀ fault after, Operation.release.inPlace.run here = .error fault after → fault ≠ .noActiveDrag →
      fault = .boardUnavailable ∧ w.controller.session.isSome = true ∧
        after = { here with
          controller := { w.controller with phase := .idle, session := none }, commons := w.commons.unhold }) ∧
    (∀ x history, w.controller.session = some x → w.Unavailable history →
      let v := w.run history
      v.stage = .free ∧ v.controller = { w.controller with phase := .idle, session := none } ∧
        v.commons = (amids w.commons history).unhold ∧
        v.commons.board = w.commons.board.attempts (edits history) ∧
        (Paired s.activity.count (before ++ history) →
          v.commons.activity.count =
            s.activity.count + increments (before ++ history) - decrements (before ++ history))) ∧
    ∀ x es, w.controller.session = some x → w.Spared es →
      let v := w.run es
      ∃ y, (y = x ∨ y = { x with target := none }) ∧ v.controller = { w.controller with session := some y } ∧
        v.GoesOn y := by
  intro first w here
  have hposture : w.PhaseOfPosture := (run_turns (phaseOfPosture_new viewport s) before).1
  refine ⟨fun o fault h => inPlace_of_refused h calls, fun card left fault after h => Operation.start_refused h,
    fun o after h => Operation.refused_noActiveDrag h, fun t fault after h hne => ?_,
    fun fault after h hne => ?_, fun x history hx h => ?_, fun x es hx h => ?_⟩
  · obtain ⟨_, hfault, _⟩ | ⟨x, hx, hfault, hafter⟩ := Operation.dropOn_refused h
    · exact absurd hfault hne
    · exact ⟨hfault, x, hx, hafter⟩
  · obtain ⟨_, hfault, _⟩ | ⟨x, hx, hfault, hafter⟩ := Operation.release_refused h
    · exact absurd hfault hne
    · exact ⟨hfault, Option.isSome_of_eq_some hx, hafter⟩
  · intro v
    have hended : w.Ended history := unavailable_ends hposture hx h
    refine ⟨hended.stage, hended.controller, hended.commons, ?_, fun hpaired => ?_⟩
    · show v.commons.board = _
      rw [hended.commons, Commons.unhold_board, amids_board]
    · have hv : first.run (before ++ history) = v := run_append first before history
      have hcount := count_run (w := first) quiet_new rfl hpaired
      have hidle : v.busy = false := by
        unfold busy releasing
        rw [hended.stage, hended.controller]
        rfl
      rw [hv, hidle] at hcount
      exact hcount
  · intro v
    obtain ⟨y, hy, hc⟩ := session_of_spared hposture.quiet hx h
    have hsession : v.controller.session = some y := congrArg (·.session) hc
    exact ⟨y, hy, hc, goesOn_of_session (quiet_run hposture.quiet es) hsession⟩

/-- A card is dropped on a column, and there is a zone for a column that is not there. -/
def dropped : List (Event Unit) :=
  [.edit (.addContainer "todo" true), .edit (.addContainer "done" true),
    .edit (.addCard "todo" "c1" .null 100), .edit (.addCard "todo" "c2" .null 100),
    .registerZone "done" (some ()), .registerZone "gone" (some ()), .registerDraggable "c1" true,
    .start "c1" 0, .dropOn "done"]

/-- Two cards are taken up in vain, and no drop can be made. -/
def hindered : List (Event Unit) :=
  [.start "c2" 5, .dropOn "gone", .poison, .dropOn "done", .start "c1" 7, .increment, .heal]

/-- While the release waits, somebody moves the card and the dialog says yes, and then the board is poisoned. -/
def spoiled : List (Event Unit) :=
  [.callbackReturns, .edit (.transfer "c1" "done"), .answer 0 true, .poison]

/-- The card in hand survives all that hinders it, and its release fails at the very end. -/
theorem refusals_leave_drag_hindered :
    let first : Scene Unit := Scene.new (Controller.new ⟨⟨0, 500⟩, 500, 0⟩) (.ofBoard .empty)
    let w := first.run dropped
    let v := w.run (.release :: (spoiled ++ [.poll]))
    first.step (.move 3) = (first, .refused .noActiveDrag) ∧
      w.step (.start "c2" 5) = (w, .refused (.dragInProgress "c1")) ∧
      (∃ x, w.controller.session = some x ∧ x.target = some "done" ∧
        (w.step (.dropOn "gone")).1.controller =
          { w.controller with session := some { x with target := none } } ∧
        ∃ y, (w.run hindered).GoesOn y ∧ (y = x ∨ y = { x with target := none })) ∧
      v.controller.session = none ∧ v.controller.phase = .idle ∧ v.commons.activity.count = 0 ∧
      v.commons.board = w.commons.board.attempts [.transfer "c1" "done"] := by
  have hnone := refusals_leave_drag (κ := Unit) ⟨⟨0, 500⟩, 500, 0⟩ (.ofBoard .empty) [] []
  have hrefusals := refusals_leave_drag ⟨⟨0, 500⟩, 500, 0⟩ (.ofBoard .empty) dropped [.started "c1" .null]
  have hnotes :
      let first : Scene Unit := Scene.new (Controller.new ⟨⟨0, 500⟩, 500, 0⟩) (.ofBoard .empty)
      let w := first.run dropped
      (first.step (.move 3)).2 = .refused .noActiveDrag ∧
        (w.step (.start "c2" 5)).2 = .refused (.dragInProgress "c1") ∧
        (w.step (.dropOn "gone")).2 = .refused (.unknownContainer "gone") ∧
        (((w.step .release).1.run spoiled).step .poll).2 = .refused .boardUnavailable ∧
        (((w.step .release).1.run spoiled).step .poll).1.stage = .free := ⟨rfl, rfl, rfl, rfl, rfl⟩
  have hfacts :
      let w : Scene Unit := (Scene.new (Controller.new ⟨⟨0, 500⟩, 500, 0⟩) (.ofBoard .empty)).run dropped
      w.controller.session.isSome = true ∧ w.controller.session.bind (·.target) = some "done" ∧
        w.Spared hindered ∧ (w.step .release).1.Lasts spoiled ∧
        Paired 0 (dropped ++ (.release :: (spoiled ++ [.poll]))) := by
    decide +kernel
  -- From here on the scenes are whatever they are; only these facts about them matter.
  dsimp only at hnone hrefusals hnotes hfacts ⊢
  generalize (Scene.new (Controller.new ⟨⟨0, 500⟩, 500, 0⟩) (.ofBoard .empty) : Scene Unit) = first
    at hnone hrefusals hnotes hfacts ⊢
  generalize first.run dropped = w at hrefusals hnotes hfacts ⊢
  obtain ⟨hmove, hstart, hdrop, hpoll, hfree⟩ := hnotes
  obtain ⟨hsession, htarget, hspared, hlasts, hpaired⟩ := hfacts
  obtain ⟨x, hx⟩ := Option.isSome_iff_exists.mp hsession
  rw [hx] at htarget
  obtain ⟨hinPlace, hstarts, _, hdrops, _, hreleases, hgoesOn⟩ := hrefusals
  refine ⟨?_, ?_, ⟨x, hx, htarget, ?_, ?_⟩, ?_⟩
  · obtain ⟨after, hrun, hstep⟩ := hnone.1 (.move 3) _ hmove
    obtain ⟨_, rfl⟩ := hnone.2.2.1 _ after hrun
    exact hstep
  · obtain ⟨after, hrun, hstep⟩ := hinPlace (.start "c2" 5) _ hstart
    obtain ⟨rfl, _⟩ := hstarts _ _ _ after hrun
    exact hstep
  · obtain ⟨after, hrun, hstep⟩ := hinPlace (.dropOn "gone") _ hdrop
    obtain ⟨_, y, hy, rfl⟩ := hdrops _ _ after hrun (fun h => by cases h)
    rw [hx] at hy
    cases hy
    exact congrArg (·.1.controller) hstep
  · obtain ⟨y, hy, _, hgoes⟩ := hgoesOn x hindered hx hspared
    exact ⟨y, hgoes, hy⟩
  · obtain ⟨_, hcontroller, _, hboard, hcount⟩ := hreleases x _ hx (.atEnd hlasts hfree hpoll)
    exact ⟨congrArg (·.session) hcontroller, congrArg (·.phase) hcontroller, hcount hpaired, hboard⟩

end Scene

end Kanban
