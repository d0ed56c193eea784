import Kanban.Proofs.Drag.Sessions
import Kanban.Proofs.Drag.Stages

/-!
# `Proofs.Drag.Phases` — what a controller lets others see

Whoever watches a controller sees its phases and nothing else. Phase and session are two things that change
at different moments, so what is seen is told by a third: the posture, in which there are ten ways from one
to the next. Each step of a scene takes one of them, and each of them publishes what belongs to it.

## Contents
- `Posture`, `Posture.Turn`: the postures and the ways between them; `Turn.sofar_append`: what is published
  on such a way.
- `Scene.publishes`, `Scene.published`: the phases that others are shown.
- `Scene.Turns`, `step_turns`: every step takes one of the ways; `run_turns`: a whole run.
- `phase_discipline`: what is seen of a controller.
-/

namespace Kanban

/-- The phases that one drag shows, whether its release has to be confirmed or not. -/
def Phase.ofDrag (confirmed : Bool) : List Phase :=
  [dragging, idle] ++ if confirmed then [pendingConfirmation, idle] else []

/-! ## Postures -/

/-- Where a controller is in a drag. -/
inductive Posture where
  | resting
  | dragging
  /-- A release that asks nobody is about to end. -/
  | ending
  /-- The callback of a release is running. -/
  | calling
  /-- A release waits. -/
  | waiting
  /-- The controller is no longer there; it may have gone in the middle of a drag. -/
  | gone (amid : Bool)

namespace Posture

/-- The phase that belongs to a posture. -/
def phase : Posture → Phase
  | dragging | gone true => .dragging
  | waiting => .pendingConfirmation
  | resting | ending | calling | gone false => .idle

/-- What a drag that is not over yet has shown so far. -/
def sofar : Posture → List Phase
  | resting | ending | gone false => []
  | dragging | gone true => [.dragging]
  | calling => [.dragging, .idle]
  | waiting => [.dragging, .idle, .pendingConfirmation]

/-- The ways from one posture to the next, with the phases that are published on them. -/
inductive Turn : Posture → List Phase → Posture → Prop where
  | stays {p} : Turn p [] p
  | takesUp : Turn resting [.dragging] dragging
  /-- A release finds the board poisoned. -/
  | refused : Turn dragging [.idle] resting
  | releases : Turn dragging [.idle] ending
  | settles : Turn ending [] resting
  | calls : Turn dragging [.idle] calling
  | asks : Turn calling [.pendingConfirmation] waiting
  /-- The wait is over, or it is given up. -/
  | concludes : Turn waiting [.idle] resting
  | leaves : Turn resting [] (gone false)
  | leavesAmid : Turn dragging [] (gone true)

variable {p q : Posture} {shown : List Phase}

/-- **One way** carries the drag on, or ends it and perhaps begins another one. -/
theorem Turn.sofar_append (h : Turn p shown q) :
    ∃ drags : List Bool, p.sofar ++ shown = drags.flatMap Phase.ofDrag ++ q.sofar := by
  cases h with
  | stays => exact ⟨[], List.append_nil _⟩
  | takesUp | calls | asks | leaves | leavesAmid | settles => exact ⟨[], rfl⟩
  | refused | releases => exact ⟨[false], rfl⟩
  | concludes => exact ⟨[true], rfl⟩

/-- The phase that is published last is the one that belongs to the posture. -/
theorem Turn.phase (h : Turn p shown q) : q.phase = shown.getLast?.getD p.phase := by
  cases h <;> rfl

/-- A drag that is not over yet can be ended. -/
theorem sofar_prefix (p : Posture) : ∃ drags : List Bool, p.sofar <+: drags.flatMap Phase.ofDrag := by
  have hwaiting : [Phase.dragging, .idle, .pendingConfirmation] <+: [true].flatMap Phase.ofDrag :=
    ⟨[.idle], rfl⟩
  have hcalling : [Phase.dragging, .idle] <+: [false].flatMap Phase.ofDrag := ⟨[], rfl⟩
  have hdragging : [Phase.dragging] <+: [false].flatMap Phase.ofDrag := ⟨[.idle], rfl⟩
  cases p with
  | resting | ending => exact ⟨[], List.nil_prefix⟩
  | dragging => exact ⟨[false], hdragging⟩
  | calling => exact ⟨[false], hcalling⟩
  | waiting => exact ⟨[true], hwaiting⟩
  | gone amid =>
    cases amid with
    | false => exact ⟨[], List.nil_prefix⟩
    | true => exact ⟨[false], hdragging⟩

end Posture

namespace Scene

variable {κ : Type} {w : Scene κ}

/-- Where the controller of a scene is in a drag. -/
def posture (w : Scene κ) : Posture :=
  match w.stage with
  | .free => if w.controller.session.isSome then .dragging else .resting
  | .ending _ _ => .ending
  | .calling _ _ => .calling
  | .waiting _ _ _ => .waiting
  | .gone => .gone (w.controller.phase = .dragging)

/-! ## What is published -/

/-- The phases that an event publishes: a start when the session is open, a release when the session is
    taken, before it looks at the board, a wait when it begins, and a wait when it ends in any way. -/
def publishes (w : Scene κ) (e : Event κ) : List Phase :=
  match w.stage, e with
  | .free, .start card left =>
    match w.controller.start w.commons card left with
    | .ok _ => [.dragging]
    | .error _ => []
  | .free, .release => if w.controller.session.isSome then [.idle] else []
  | .calling _ _, .callbackReturns => [.pendingConfirmation]
  | .waiting _ _ _, .poll => if w.heard.isSome then [.idle] else []
  | .waiting _ _ _, .cancel => [.idle]
  | _, _ => []

/-- The phases that several events publish. -/
def published (w : Scene κ) : List (Event κ) → List Phase
  | [] => []
  | e :: es => w.publishes e ++ (w.step e).1.published es

/-- What is published at a known stage. -/
theorem publishes_of_stage {stage : Stage κ} (hst : w.stage = stage) (e : Event κ) :
    w.publishes e = ({ w with stage } : Scene κ).publishes e := by
  rw [← hst]

theorem publishes_release (hf : w.stage = .free) :
    w.publishes .release = if w.controller.session.isSome then [.idle] else [] :=
  publishes_of_stage hf .release

/-- Of a release in progress only what moves it on or ends it is seen. -/
theorem publishes_of_beside {e : Event κ} (h : w.releasing = true) (he : w.concerns e = false) :
    w.publishes e = [] := by
  unfold publishes
  unfold concerns at he
  rcases releasing_iff.mp h with ⟨session, ending, hst⟩ | ⟨p, gate, hst⟩ | ⟨p, gate, waited, hst⟩
  · simp only [hst]
  · simp only [hst] at he ⊢
    cases e <;> first | rfl | cases he
  · simp only [hst] at he ⊢
    cases e with
    | poll => simp [Bool.eq_false_iff.mp he]
    | cancel => cases he
    | _ => rfl

/-- A confirmation is seen to be pending only from the moment at which the callback has returned. -/
theorem callbackReturns_of_publishes {e : Event κ} (h : .pendingConfirmation ∈ w.publishes e) :
    e = .callbackReturns ∧ ∃ p gate, w.stage = .calling p gate := by
  unfold publishes at h
  split at h
  · split at h <;> simp at h
  · split at h <;> simp at h
  · exact ⟨rfl, _, _, by assumption⟩
  · split at h <;> simp at h
  · simp at h
  · simp at h

/-! ## One step -/

/-- The way that a step takes, and the phase after it. -/
def Turns (w : Scene κ) (e : Event κ) (next : Scene κ) : Prop :=
  w.posture.Turn (w.publishes e) next.posture ∧
    next.controller.phase = (w.publishes e).getLast?.getD w.controller.phase

/-- Nothing of it is seen. -/
theorem Turns.of_kept {e : Event κ} {next : Scene κ} (hpub : w.publishes e = [])
    (hst : next.stage = w.stage) (hph : next.controller.phase = w.controller.phase)
    (hs : next.controller.session.isSome = w.controller.session.isSome) : w.Turns e next := by
  have hposture : next.posture = w.posture := by simp only [posture, hst, hph, hs]
  unfold Turns
  rw [hpub, hposture]
  exact ⟨.stays, hph⟩

theorem posture_of_free (h : w.stage = .free) :
    w.posture = if w.controller.session.isSome then .dragging else .resting := by
  simp only [posture, h]

theorem turns_start (hf : w.stage = .free) (card : String) (left : Float) :
    w.Turns (.start card left) (w.start card left).1 := by
  unfold start
  cases h : w.controller.start w.commons card left with
  | error fault => exact .of_kept (by simp [publishes, hf, h]) rfl rfl rfl
  | ok result =>
    obtain ⟨c, s⟩ := result
    have hpub : w.publishes (.start card left) = [.dragging] := by simp [publishes, hf, h]
    obtain ⟨hnone, _, _, found, _, rfl, rfl⟩ := Controller.start_eq_ok h
    unfold Turns
    rw [hpub, posture_of_free hf, posture_of_free (by exact hf), hnone]
    exact ⟨.takesUp, rfl⟩

theorem turns_move (hf : w.stage = .free) (left : Float) : w.Turns (.move left) (w.move left).1 := by
  have hpub : w.publishes (.move left) = [] := publishes_of_stage hf _
  unfold move
  cases h : w.controller.move left with
  | error fault => exact .of_kept hpub rfl rfl rfl
  | ok result =>
    obtain ⟨c, x⟩ := result
    obtain ⟨session, hs, hs', hph, _⟩ := Controller.move_eq_ok h
    have hopen : c.session.isSome = w.controller.session.isSome := by rw [hs, hs']; rfl
    exact .of_kept hpub rfl hph hopen

theorem turns_dropOn (hf : w.stage = .free) (container : String) :
    w.Turns (.dropOn container) (w.dropOn container).1 := by
  obtain ⟨target, ht⟩ := Controller.dropOn_session (c := w.controller) (s := w.commons) container
  rw [dropOn_eq, ht]
  exact .of_kept (publishes_of_stage hf _) rfl rfl (by rw [Option.isSome_map])

theorem turns_release (hf : w.stage = .free) : w.Turns .release w.release.1 := by
  unfold release
  cases hs : w.controller.session with
  | none =>
    rw [Controller.release_none hs]
    exact .of_kept (by rw [publishes_release hf, hs]; rfl) rfl rfl rfl
  | some session =>
    have hpub : w.publishes .release = [.idle] := by rw [publishes_release hf, hs]; rfl
    unfold Turns
    rw [hpub, posture_of_free hf, hs]
    -- The session is taken and the phase is idle before the board is looked at.
    cases hp : w.commons.poisoned with
    | true =>
      rw [Controller.release_poisoned hs hp]
      rw [posture_of_free (by exact hf)]
      exact ⟨.refused, rfl⟩
    | false =>
      rw [Controller.release_ok hs hp]
      cases ({ w.controller with phase := .idle, session := none } : Controller κ).judge
          w.commons.board session with
      | ok p => exact ⟨.calls, rfl⟩
      | error ending => exact ⟨.releases, rfl⟩

theorem turns_dismiss (hf : w.stage = .free) (hp : w.controller.phase = w.posture.phase) :
    w.Turns .dismiss w.dismiss := by
  have hpub : w.publishes .dismiss = [] := publishes_of_stage hf _
  rw [posture_of_free hf] at hp
  unfold Turns
  rw [hpub, posture_of_free hf]
  unfold dismiss Controller.dismiss
  cases hs : w.controller.session with
  | none =>
    rw [hs] at hp
    refine ⟨?_, rfl⟩
    simp only [posture, withController, show w.controller.phase = .idle from hp]
    exact .leaves
  | some session =>
    rw [hs] at hp
    refine ⟨?_, rfl⟩
    simp only [posture, withController, show w.controller.phase = .dragging from hp]
    exact .leavesAmid

/-- **A step of a release in progress.** -/
theorem turns_of_releasing (h : w.releasing = true) (hq : w.Quiet) (e : Event κ) :
    w.Turns e (w.step e).1 := by
  have hnone : w.controller.session = none := hq (isFree_of_releasing h)
  have hrelease := releaseStep_of_releasing h e
  generalize w.step e = next at hrelease ⊢
  cases hrelease with
  | beside he hn => exact .of_kept (publishes_of_beside h he) rfl rfl rfl
  | settles hs =>
    have hpub : w.publishes .settle = [] := publishes_of_stage hs _
    unfold Turns
    rw [hpub]
    simp only [posture, hs, hnone]
    exact ⟨.settles, rfl⟩
  | begins hs =>
    have hpub : w.publishes .callbackReturns = [.pendingConfirmation] := publishes_of_stage hs _
    unfold Turns
    rw [hpub]
    simp only [posture, hs]
    exact ⟨.asks, rfl⟩
  | passes ms hs =>
    have hpub : w.publishes (.pass ms) = [] := publishes_of_stage hs _
    unfold Turns
    rw [hpub]
    simp only [posture, hs]
    exact ⟨.stays, rfl⟩
  | concludes hs hc =>
    have hpub : w.publishes .poll = [.idle] := by simp [publishes, hs, hc]
    unfold Turns
    rw [hpub]
    simp only [posture, hs, hnone]
    exact ⟨.concludes, rfl⟩
  | cancels hs =>
    have hpub : w.publishes .cancel = [.idle] := publishes_of_stage hs _
    unfold Turns
    rw [hpub]
    simp only [posture, hs, hnone]
    exact ⟨.concludes, rfl⟩

/-- What others do, and what moves a release on, is not seen unless a release is in progress. -/
theorem turns_of_others (hn : w.stage = .free ∨ w.stage = .gone) {e : Event κ} (he : e.operates = false) :
    w.Turns e (w.step e).1 := by
  have hpub : w.publishes e = [] := by
    rcases hn with hst | hst
    · cases e <;> first | exact publishes_of_stage hst _ | cases he
    · exact publishes_of_stage hst _
  cases e with
  | settle | callbackReturns | poll | cancel | pass =>
    rcases hn with hst | hst <;>
      exact .of_kept hpub (by simp [step, settle, callbackReturns, poll, cancel, pass, hst])
        (by simp [step, settle, callbackReturns, poll, cancel, pass, hst])
        (by simp [step, settle, callbackReturns, poll, cancel, pass, hst])
  | edit | answer | abandon | poison | heal | increment | decrement => exact .of_kept hpub rfl rfl rfl
  | _ => cases he

/-- An operation of a free controller. -/
theorem turns_of_operates (hf : w.stage = .free) (hp : w.controller.phase = w.posture.phase) {e : Event κ}
    (he : e.operates = true) : w.Turns e (w.step e).1 := by
  have hwhen : ∀ next, w.whenFree next = next := step_free hf
  cases e with
  | start card left =>
    rw [show w.step (.start card left) = w.start card left from hwhen _]
    exact turns_start hf card left
  | move left =>
    rw [show w.step (.move left) = w.move left from hwhen _]
    exact turns_move hf left
  | dropOn container =>
    rw [show w.step (.dropOn container) = w.dropOn container from hwhen _]
    exact turns_dropOn hf container
  | release =>
    rw [show w.step .release = w.release from hwhen _]
    exact turns_release hf
  | dismiss =>
    rw [show w.step .dismiss = (w.dismiss, .nothing) from hwhen _]
    exact turns_dismiss hf hp
  | registerZone | registerDraggable | setLimit | setViewport =>
    simp only [step, hwhen]
    exact .of_kept (publishes_of_stage hf _) rfl rfl rfl
  | _ => cases he

/-- **Every step** takes one of the ways from posture to posture. -/
theorem step_turns (hq : w.Quiet) (hp : w.controller.phase = w.posture.phase) (e : Event κ) :
    w.Turns e (w.step e).1 := by
  by_cases hr : w.releasing = true
  · exact turns_of_releasing hr hq e
  have hn : w.stage = .free ∨ w.stage = .gone := by
    unfold releasing at hr
    cases hst : w.stage with
    | free => exact Or.inl rfl
    | gone => exact Or.inr rfl
    | _ => simp [hst] at hr
  cases he : e.operates with
  | false => exact turns_of_others hn he
  | true =>
    rcases hn with hf | hg
    · exact turns_of_operates hf hp he
    · rw [step_operates he (by simp [isFree, hg])]
      exact .of_kept (publishes_of_stage hg _) rfl rfl rfl

/-! ## Whole runs -/

/-- A scene whose controller shows the phase that belongs to its posture. -/
structure PhaseOfPosture (w : Scene κ) : Prop where
  quiet : w.Quiet
  phase : w.controller.phase = w.posture.phase

theorem phaseOfPosture_new (viewport : Viewport) (s : Commons) :
    (Scene.new (Controller.new viewport : Controller κ) s).PhaseOfPosture := ⟨quiet_new, rfl⟩

theorem PhaseOfPosture.phase_of_free (h : w.PhaseOfPosture) (hf : w.stage = .free) :
    w.controller.phase = if w.controller.session.isSome then .dragging else .idle := by
  rw [h.phase, posture_of_free hf]
  cases w.controller.session <;> rfl

theorem PhaseOfPosture.phase_of_waiting {p : Pending κ} {gate waited : Nat} (h : w.PhaseOfPosture)
    (hst : w.stage = .waiting p gate waited) :
    w.controller.phase = .pendingConfirmation ∧ w.controller.session = none := by
  refine ⟨?_, h.quiet (by simp only [isFree, hst])⟩
  rw [h.phase]
  simp only [posture, hst]
  rfl

/-- **One step** keeps it. -/
theorem phaseOfPosture_step (h : w.PhaseOfPosture) (e : Event κ) : (w.step e).1.PhaseOfPosture := by
  obtain ⟨hturn, hphase⟩ := step_turns h.quiet h.phase e
  refine ⟨quiet_step h.quiet e, ?_⟩
  rw [hphase, hturn.phase, h.phase]

/-- **A whole run:** the phase is the one that was published last, and all that were published are those of
    drags that are over and of the drag at hand. -/
theorem run_turns (h : w.PhaseOfPosture) (es : List (Event κ)) :
    (w.run es).PhaseOfPosture ∧
      (w.run es).controller.phase = (w.published es).getLast?.getD w.controller.phase ∧
      ∃ drags : List Bool, w.posture.sofar ++ w.published es =
        drags.flatMap Phase.ofDrag ++ (w.run es).posture.sofar := by
  induction es generalizing w with
  | nil => exact ⟨h, rfl, [], List.append_nil _⟩
  | cons e rest ih =>
    obtain ⟨hturn, hphase⟩ := step_turns h.quiet h.phase e
    obtain ⟨first, hfirst⟩ := hturn.sofar_append
    obtain ⟨hposture, hlater, drags, hdrags⟩ := ih (phaseOfPosture_step h e)
    refine ⟨hposture, ?_, first ++ drags, ?_⟩
    · rw [run_cons, hlater, hphase, published, List.getLast?_append]
      cases ((w.step e).1.published rest).getLast? <;> rfl
    · rw [published, ← List.append_assoc, hfirst, List.append_assoc, hdrags, run_cons,
        List.flatMap_append, List.append_assoc]

/-- After a release that was asked for there is no session, whatever comes of it. -/
theorem session_after_release (hf : w.stage = .free) :
    (w.step .release).1.controller.session = none := by
  rw [show w.step .release = w.release from step_free hf _]
  unfold release
  cases hs : w.controller.session with
  | none =>
    rw [Controller.release_none hs]
    exact hs
  | some session =>
    cases hp : w.commons.poisoned with
    | true =>
      rw [Controller.release_poisoned hs hp]
      rfl
    | false =>
      rw [Controller.release_ok hs hp]
      cases ({ w.controller with phase := .idle, session := none } : Controller κ).judge
        w.commons.board session <;> rfl

/-- As long as no card is taken up there is no session. -/
theorem session_of_taken {es : List (Event κ)} (h : w.controller.session = none)
    (ht : w.taken es = none) : (w.run es).controller.session = none := by
  have hrecalls : Recalls none w := by
    intro x hx
    rw [h] at hx
    cases hx
  have hrun := recalls_run hrecalls es
  rw [show w.takenFrom none es = none from ht] at hrun
  cases hs : (w.run es).controller.session with
  | none => rfl
  | some x =>
    obtain ⟨_, hnone, _⟩ := hrun x hs
    cases hnone

/-- A card is taken up if nothing stands against it. -/
theorem step_start_of_card {card : String} {found : Card} (hf : w.stage = .free)
    (hs : w.controller.session = none) (hd : w.controller.draggables.contains card = true)
    (hp : w.commons.poisoned = false) (hb : w.commons.board.card? card = some found) (left : Float) :
    (w.step (.start card left)).2 = .started found.issue ∧
      (w.step (.start card left)).1.controller.session = some (w.controller.openSession found card left) := by
  rw [show w.step (.start card left) = w.start card left from step_free hf _]
  unfold start
  rw [Controller.start_of_card hs hd hp hb]
  exact ⟨rfl, rfl⟩

/-- **What is seen of a controller,** from the beginning and whatever happens, on any board.
    - When no release is in progress the phase is dragging if there is a session and idle if there is none.
    - While a release waits the phase is pending confirmation, and there is no session.
    - The phases that were ever shown are idle and then those of drags, each with a confirmation or without
      one, up to a point in the last drag. The phase is the one that was shown last.
    - A confirmation is shown to be pending only when the callback of the release has returned.
    - Once a release is over, in whatever way, a card that may be dragged and is on a board in good order can
      be taken up, unless one has been taken up since. -/
theorem phase_discipline (viewport : Viewport) (s : Commons) (es : List (Event κ)) :
    let first := Scene.new (Controller.new viewport) s
    let w := first.run es
    (w.stage = .free → w.controller.phase = if w.controller.session.isSome then .dragging else .idle) ∧
    (∀ p gate waited, w.stage = .waiting p gate waited →
      w.controller.phase = .pendingConfirmation ∧ w.controller.session = none) ∧
    (∃ drags : List Bool, .idle :: first.published es <+: .idle :: drags.flatMap Phase.ofDrag) ∧
    w.controller.phase = (first.published es).getLast?.getD .idle ∧
    (∀ e, .pendingConfirmation ∈ w.publishes e →
      e = .callbackReturns ∧ ∃ p gate, w.stage = .calling p gate) ∧
    (w.stage = .free → ∀ later card left found,
      let u := (w.step .release).1
      let v := u.run later
      v.stage = .free → u.taken later = none → v.controller.draggables.contains card = true →
      v.commons.poisoned = false → v.commons.board.card? card = some found →
      (v.step (.start card left)).2 = .started found.issue ∧
        (v.step (.start card left)).1.controller.session =
          some (v.controller.openSession found card left)) := by
  intro first w
  obtain ⟨hposture, hlast, drags, hdrags⟩ := run_turns (phaseOfPosture_new (κ := κ) viewport s) es
  refine ⟨hposture.phase_of_free, ?_, ?_, hlast, ?_, ?_⟩
  · intro p gate waited hst
    exact hposture.phase_of_waiting hst
  · obtain ⟨last, hlastDrag⟩ := Posture.sofar_prefix w.posture
    have hshown : first.published es = drags.flatMap Phase.ofDrag ++ w.posture.sofar := hdrags
    refine ⟨drags ++ last, ?_⟩
    rw [hshown, List.flatMap_append]
    exact List.prefix_cons_inj _ |>.mpr ((List.prefix_append_right_inj _).mpr hlastDrag)
  · intro e he
    exact callbackReturns_of_publishes he
  · intro hf later card left found u v hfree htaken hallowed hclean hcard
    have hnone : v.controller.session = none := session_of_taken (session_after_release hf) htaken
    exact step_start_of_card hfree hnone hallowed hclean hcard left

/-- A card is dropped on another column, on a board that is built before. -/
def pressed : List (Event Unit) :=
  [.edit (.addContainer "todo" true), .edit (.addContainer "done" true),
    .edit (.addCard "todo" "c1" (.flag true) 100), .registerZone "done" (some ()),
    .registerDraggable "c1" true, .start "c1" 0, .dropOn "done"]

/-- The card can be taken up again although its release was given up. -/
theorem phase_discipline_givenUp :
    let w : Scene Unit := (Scene.new (Controller.new ⟨⟨0, 500⟩, 500, 0⟩) (.ofBoard .empty)).run pressed
    let v := (w.step .release).1.run [.callbackReturns, .cancel]
    w.stage = .free ∧ v.stage = .free ∧ ∃ found, v.commons.board.card? "c1" = some found ∧
      (v.step (.start "c1" 0)).2 = .started found.issue ∧
      (v.step (.start "c1" 0)).1.controller.session = some (v.controller.openSession found "c1" 0) := by
  have hdiscipline := phase_discipline ⟨⟨0, 500⟩, 500, 0⟩ (.ofBoard .empty) pressed
  have hfacts :
      let w : Scene Unit := (Scene.new (Controller.new ⟨⟨0, 500⟩, 500, 0⟩) (.ofBoard .empty)).run pressed
      let u := (w.step .release).1
      let v := u.run [.callbackReturns, .cancel]
      w.isFree = true ∧ v.isFree = true ∧ (u.taken [.callbackReturns, .cancel]).isNone = true ∧
        v.controller.draggables.contains "c1" = true ∧ v.commons.poisoned = false ∧
        (v.commons.board.card? "c1").isSome = true := by
    decide +kernel
  -- From here on the scene is whatever it is; only these facts about it matter.
  generalize (Scene.new (Controller.new ⟨⟨0, 500⟩, 500, 0⟩) (.ofBoard .empty) : Scene Unit) = first
    at hdiscipline hfacts ⊢
  intro w v
  obtain ⟨hfree, hover, htaken, hallowed, hclean, hcard⟩ := hfacts
  obtain ⟨found, hfound⟩ := Option.isSome_iff_exists.mp hcard
  have hf : w.stage = .free := isFree_iff.mp hfree
  have hv : v.stage = .free := isFree_iff.mp hover
  have hstart := hdiscipline.2.2.2.2.2 hf [.callbackReturns, .cancel] "c1" 0 found hv
    (Option.isNone_iff_eq_none.mp htaken) hallowed hclean hfound
  exact ⟨hf, hv, found, hfound, hstart⟩

end Scene
end Kanban
