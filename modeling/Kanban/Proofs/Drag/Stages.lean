import Kanban.Proofs.Drag.Steps

/-!
# `Proofs.Drag.Stages` — the stages of a release

A release is about to end, or its callback runs, or it waits at its gate, and others act in between. While
it is in progress a step does one of six things: it lets others act beside the release, or it moves the
release on, or it ends it. Everything about a release in progress is proved from these six and from what
happens when none is.

## Contents
- `Scene.gate?`, `Scene.heard`, `Asking`: where a release waits, what it hears there, and for whom.
- `Event.onGates`, `Note.call`, `Scene.calls`: answers of others, and the callbacks that are called.
- `ReleaseStep` and `releaseStep_of_releasing`: the six ways of a release in progress.
- `step_idle`: a step while no release is in progress.
- `Lasts`: a release from one moment to another; `Lasts.keeps`: what is kept meanwhile; `calls_of_lasts`:
  nobody is called.
-/

namespace Kanban.Scene

variable {κ : Type} {w : Scene κ}

/-! ## A release and its gate -/

/-- The gate at which a release waits, or will wait once its callback has returned. -/
def gate? (w : Scene κ) : Option Nat :=
  match w.stage with
  | .calling _ gate | .waiting _ gate _ => some gate
  | .free | .ending _ _ | .gone => none

/-- What a release that waits hears if it looks at its gate. -/
def heard (w : Scene κ) : Option Confirmation :=
  match w.stage with
  | .waiting _ gate waited => (w.gates.getD gate Gate.fresh).verdict w.controller.limit waited
  | _ => none

/-- A release asks at a gate: its callback runs, or it waits. -/
def Asking (w : Scene κ) (p : Pending κ) (gate : Nat) : Prop :=
  w.stage = .calling p gate ∨ ∃ waited, w.stage = .waiting p gate waited

theorem Asking.releasing {p : Pending κ} {gate : Nat} (h : w.Asking p gate) : w.releasing = true := by
  rcases h with h | ⟨waited, h⟩ <;> simp [Scene.releasing, h]

theorem Asking.not_ending {p : Pending κ} {gate : Nat} {x : Session} {ending : Ending}
    (h : w.Asking p gate) : w.stage ≠ .ending x ending := by
  rcases h with h | ⟨waited, h⟩ <;> simp [h]

theorem Asking.of_calling {p p' : Pending κ} {gate gate' : Nat} (h : w.Asking p gate)
    (hs : w.stage = .calling p' gate') : p = p' ∧ gate = gate' := by
  rcases h with h | ⟨waited, h⟩
  · rw [h] at hs
    cases hs
    exact ⟨rfl, rfl⟩
  · rw [h] at hs
    cases hs

theorem Asking.of_waiting {p p' : Pending κ} {gate gate' waited : Nat} (h : w.Asking p gate)
    (hs : w.stage = .waiting p' gate' waited) : p = p' ∧ gate = gate' := by
  rcases h with h | ⟨waited', h⟩
  · rw [h] at hs
    cases hs
  · rw [h] at hs
    cases hs
    exact ⟨rfl, rfl⟩

theorem gate?_eq_some {gate : Nat} : w.gate? = some gate ↔ ∃ p, w.Asking p gate := by
  unfold gate? Asking
  cases w.stage <;> simp

/-- What others do to the gates with an event. -/
def Event.onGates (e : Event κ) (gates : List Gate) : List Gate :=
  match e with
  | .answer gate accepted => gates.modify gate fun g => (g.resolve accepted).1
  | .abandon gate => gates.modify gate Gate.abandon
  | _ => gates

/-- The callback that is to be run, and for which release. -/
def Note.call : Note κ → Option (Pending κ)
  | .calling p _ => some p
  | _ => none

/-- What others are told about the board calls nobody. -/
theorem call_edited (result : Except Fault Unit) :
    (match result with
      | .ok () => .nothing
      | .error fault => .refused fault : Note κ).call = none := by
  cases result <;> rfl

/-- The callbacks that are run in several events, in order. -/
def calls (w : Scene κ) : List (Event κ) → List (Pending κ)
  | [] => []
  | e :: es => (w.step e).2.call.toList ++ (w.step e).1.calls es

theorem step_operates {e : Event κ} (he : e.operates = true) (h : w.isFree = false) :
    w.step e = (w, .nothing) := by
  cases e with
  | settle | callbackReturns | poll | cancel | pass | answer | abandon | edit | poison | heal | increment
  | decrement => cases he
  | _ => simp [step, whenFree, h]

/-- A scene in which others have acted. -/
def amid (w : Scene κ) (e : Event κ) : Scene κ :=
  { w with commons := e.amid w.commons, gates := e.onGates w.gates }

theorem amid_operates {e : Event κ} (he : e.operates = true) : w.amid e = w := by
  cases e with
  | settle | callbackReturns | poll | cancel | pass | answer | abandon | edit | poison | heal | increment
  | decrement => cases he
  | _ => rfl

/-! ## A release in progress -/

/-- Whether an event moves the release in progress on, or ends it. -/
def concerns (w : Scene κ) (e : Event κ) : Bool :=
  match w.stage, e with
  | .ending _ _, .settle | .calling _ _, .callbackReturns | .waiting _ _ _, .pass _
  | .waiting _ _ _, .cancel => true
  | .waiting _ _ _, .poll => w.heard.isSome
  | _, _ => false

/-- What a release tells in the end if it may still take the mark off its card. -/
def verdict (w : Scene κ) (o : DropOutcome) : Note κ :=
  if w.commons.poisoned then .refused .boardUnavailable else .outcome o

/-- **What one step does** while a release is in progress. -/
inductive ReleaseStep (w : Scene κ) : Event κ → Scene κ × Note κ → Prop where
  /-- Others act, or nobody does. -/
  | beside {e note} (he : w.concerns e = false) (hn : note.call = none) : ReleaseStep w e (w.amid e, note)
  /-- A release that asks nobody ends. -/
  | settles {session ending} (hs : w.stage = .ending session ending) :
      ReleaseStep w .settle ({ w with commons := (w.commons.letGo session.card).1, stage := .free },
        w.verdict ending.outcome)
  /-- The callback has returned. -/
  | begins {p gate} (hs : w.stage = .calling p gate) :
      ReleaseStep w .callbackReturns
        ({ w with controller := w.controller.await, stage := .waiting p gate 0 }, .nothing)
  /-- Time passes. -/
  | passes {p gate waited} (ms : Nat) (hs : w.stage = .waiting p gate waited) :
      ReleaseStep w (.pass ms) ({ w with stage := .waiting p gate (waited + ms) }, .nothing)
  /-- A release that waits hears something. -/
  | concludes {p gate waited c} (hs : w.stage = .waiting p gate waited) (hc : w.heard = some c) :
      ReleaseStep w .poll
        (⟨{ w.controller with phase := .idle }, (w.commons.letGo p.session.card).1,
            w.gates.modify gate Gate.close, .free⟩,
          w.verdict (if c.isAccepted then .committed p.target else .declined p.target c))
  /-- A release that waits is given up. -/
  | cancels {p gate waited} (hs : w.stage = .waiting p gate waited) :
      ReleaseStep w .cancel
        (⟨{ w.controller with phase := .idle }, w.commons.unhold, w.gates.modify gate Gate.close, .free⟩,
          .nothing)

theorem releasing_iff : w.releasing = true ↔
    (∃ session ending, w.stage = .ending session ending) ∨ (∃ p gate, w.stage = .calling p gate) ∨
      ∃ p gate waited, w.stage = .waiting p gate waited := by
  unfold releasing
  cases w.stage <;> simp

/-- Letting go of a card tells the outcome unless the board is poisoned. -/
theorem ofResult_letGo (w : Scene κ) (card : String) (o : DropOutcome) :
    Note.ofResult ((w.commons.letGo card).2.map fun _ => o) = w.verdict o := by
  unfold verdict
  cases hp : w.commons.poisoned with
  | true => rw [Commons.letGo_of_poisoned card hp]; rfl
  | false => rw [Commons.letGo_of_clean card hp]; rfl

theorem ReleaseStep.of_step {e : Event κ} {note : Note κ} (he : w.concerns e = false)
    (hstep : w.step e = (w.amid e, note)) (hn : note.call = none) : ReleaseStep w e (w.step e) := by
  rw [hstep]
  exact .beside he hn

/-- Nothing happens at all. -/
theorem ReleaseStep.of_nothing {e : Event κ} (he : w.concerns e = false) (ha : w.amid e = w)
    (hstep : w.step e = (w, .nothing)) : ReleaseStep w e (w.step e) :=
  .of_step he (by rw [ha, hstep]) rfl

theorem not_releasing_of_free (h : w.stage = .free) : w.releasing ≠ true := by
  simp [releasing, h]

theorem isFree_of_releasing (h : w.releasing = true) : w.isFree = false := by
  unfold releasing at h
  unfold isFree
  cases hst : w.stage with
  | free => rw [hst] at h; cases h
  | ending session ending => rfl
  | calling p gate => rfl
  | waiting p gate waited => rfl
  | gone => rfl

theorem releaseStep_settle (h : w.releasing = true) : ReleaseStep w .settle (w.step .settle) := by
  rcases releasing_iff.mp h with ⟨session, ending, hst⟩ | ⟨p, gate, hst⟩ | ⟨p, gate, waited, hst⟩
  · have hstep : w.step .settle =
        ({ w with commons := (w.commons.letGo session.card).1, stage := .free },
          w.verdict ending.outcome) := by
      simp only [step, settle, hst, Controller.settle, ofResult_letGo]
    rw [hstep]
    exact .settles hst
  · exact .of_nothing (by simp [concerns, hst]) rfl (by simp only [step, settle, hst])
  · exact .of_nothing (by simp [concerns, hst]) rfl (by simp only [step, settle, hst])

theorem releaseStep_callbackReturns (h : w.releasing = true) :
    ReleaseStep w .callbackReturns (w.step .callbackReturns) := by
  rcases releasing_iff.mp h with ⟨session, ending, hst⟩ | ⟨p, gate, hst⟩ | ⟨p, gate, waited, hst⟩
  · exact .of_nothing (by simp [concerns, hst]) rfl (by simp only [step, callbackReturns, hst])
  · have hstep : w.step .callbackReturns =
        ({ w with controller := w.controller.await, stage := .waiting p gate 0 }, .nothing) := by
      simp only [step, callbackReturns, hst]
    rw [hstep]
    exact .begins hst
  · exact .of_nothing (by simp [concerns, hst]) rfl (by simp only [step, callbackReturns, hst])

theorem releaseStep_pass (h : w.releasing = true) (ms : Nat) : ReleaseStep w (.pass ms) (w.step (.pass ms)) := by
  rcases releasing_iff.mp h with ⟨session, ending, hst⟩ | ⟨p, gate, hst⟩ | ⟨p, gate, waited, hst⟩
  · exact .of_nothing (by simp [concerns, hst]) rfl (by simp only [step, pass, hst])
  · exact .of_nothing (by simp [concerns, hst]) rfl (by simp only [step, pass, hst])
  · have hstep : w.step (.pass ms) = ({ w with stage := .waiting p gate (waited + ms) }, .nothing) := by
      simp only [step, pass, hst]
    rw [hstep]
    exact .passes ms hst

theorem releaseStep_poll (h : w.releasing = true) : ReleaseStep w .poll (w.step .poll) := by
  rcases releasing_iff.mp h with ⟨session, ending, hst⟩ | ⟨p, gate, hst⟩ | ⟨p, gate, waited, hst⟩
  · exact .of_nothing (by simp [concerns, hst]) rfl (by simp only [step, poll, hst])
  · exact .of_nothing (by simp [concerns, hst]) rfl (by simp only [step, poll, hst])
  · have hheard : w.heard = (w.gates.getD gate Gate.fresh).verdict w.controller.limit waited := by
      simp only [heard, hst]
    cases hc : w.heard with
    | none =>
      exact .of_nothing (by simp [concerns, hst, hc]) rfl (by simp only [step, poll, hst, ← hheard, hc])
    | some c =>
      have hstep : w.step .poll =
          (⟨{ w.controller with phase := .idle }, (w.commons.letGo p.session.card).1,
              w.gates.modify gate Gate.close, .free⟩,
            w.verdict (if c.isAccepted then .committed p.target else .declined p.target c)) := by
        simp only [step, poll, hst, ← hheard, hc, Controller.conclude, ofResult_letGo]
        rfl
      rw [hstep]
      exact .concludes hst hc

theorem releaseStep_cancel (h : w.releasing = true) : ReleaseStep w .cancel (w.step .cancel) := by
  rcases releasing_iff.mp h with ⟨session, ending, hst⟩ | ⟨p, gate, hst⟩ | ⟨p, gate, waited, hst⟩
  · exact .of_nothing (by simp [concerns, hst]) rfl (by simp only [step, cancel, hst])
  · exact .of_nothing (by simp [concerns, hst]) rfl (by simp only [step, cancel, hst])
  · have hstep : w.step .cancel =
        (⟨{ w.controller with phase := .idle }, w.commons.unhold, w.gates.modify gate Gate.close, .free⟩,
          .nothing) := by
      simp only [step, cancel, hst]
      rfl
    rw [hstep]
    exact .cancels hst

/-- **Every step** while a release is in progress. -/
theorem releaseStep_of_releasing (h : w.releasing = true) (e : Event κ) : ReleaseStep w e (w.step e) := by
  by_cases ho : e.operates = true
  · -- The controller's own operations do nothing until it is free again.
    refine .of_nothing ?_ (amid_operates ho) (step_operates ho (isFree_of_releasing h))
    unfold concerns
    cases w.stage <;> cases e <;> first | rfl | cases ho
  · cases e with
    | settle => exact releaseStep_settle h
    | callbackReturns => exact releaseStep_callbackReturns h
    | poll => exact releaseStep_poll h
    | cancel => exact releaseStep_cancel h
    | pass ms => exact releaseStep_pass h ms
    | edit e => exact .of_step (by unfold concerns; cases w.stage <;> rfl) rfl (call_edited _)
    | answer | abandon | poison | heal | increment | decrement =>
      exact .of_step (by unfold concerns; cases w.stage <;> rfl) rfl rfl
    | _ => exact absurd rfl ho

/-! ## From moment to moment -/

/-- A release is in progress, and it still is after each of several events. -/
def Lasts (w : Scene κ) : List (Event κ) → Prop
  | [] => w.releasing = true
  | e :: es => w.releasing = true ∧ (w.step e).1.Lasts es

instance decidableLasts : (w : Scene κ) → (es : List (Event κ)) → Decidable (w.Lasts es)
  | w, [] => inferInstanceAs (Decidable (w.releasing = true))
  | w, e :: es =>
    have := decidableLasts (w.step e).1 es
    inferInstanceAs (Decidable (w.releasing = true ∧ (w.step e).1.Lasts es))

theorem Lasts.releasing {es : List (Event κ)} (h : w.Lasts es) : w.releasing = true := by
  cases es with
  | nil => exact h
  | cons e rest => exact h.1

/-- **What every step of a release keeps** holds as long as the release lasts. -/
theorem Lasts.keeps {P : Scene κ → Prop} {es : List (Event κ)} (hes : w.Lasts es) (h : P w)
    (hstep : ∀ (u : Scene κ) (e : Event κ), u.releasing = true → (u.step e).1.releasing = true → P u →
      P (u.step e).1) : P (w.run es) := by
  induction es generalizing w with
  | nil => exact h
  | cons e rest ih => exact ih hes.2 (hstep w e hes.1 hes.2.releasing h)

/-- A release that lasts is in progress at its end. -/
theorem Lasts.releasing_run {es : List (Event κ)} (hes : w.Lasts es) : (w.run es).releasing = true :=
  hes.keeps (P := fun u => u.releasing = true) hes.releasing fun _ _ _ hnext _ => hnext

/-- A release in progress calls nobody. -/
theorem call_of_releasing (h : w.releasing = true) (e : Event κ) : (w.step e).2.call = none := by
  have hverdict : ∀ o, (w.verdict o).call = none := by
    intro o
    unfold verdict
    split <;> rfl
  have hrelease := releaseStep_of_releasing h e
  generalize w.step e = next at hrelease ⊢
  cases hrelease with
  | beside he hn => exact hn
  | settles hs => exact hverdict _
  | begins hs => rfl
  | passes ms hs => rfl
  | concludes hs hc => exact hverdict _
  | cancels hs => rfl

/-- **Nobody is called** while a release lasts, nor when it ends. -/
theorem calls_of_lasts {es : List (Event κ)} (h : w.Lasts es) (e : Event κ) : w.calls (es ++ [e]) = [] := by
  induction es generalizing w with
  | nil => simp [calls, call_of_releasing h e]
  | cons e' rest ih =>
    rw [List.cons_append, calls, call_of_releasing h.1 e', ih h.2]
    rfl

/-! ## No release in progress -/

/-- Neither a stage nor a gate is touched, and nobody is called. -/
def Beside (w : Scene κ) (next : Scene κ × Note κ) : Prop :=
  next.1.stage = w.stage ∧ next.1.gates = w.gates ∧ next.2.call = none

theorem start_beside (w : Scene κ) (card : String) (left : Float) : w.Beside (w.start card left) := by
  unfold start
  cases w.controller.start w.commons card left <;> exact ⟨rfl, rfl, rfl⟩

theorem move_beside (w : Scene κ) (left : Float) : w.Beside (w.move left) := by
  unfold move
  cases w.controller.move left <;> exact ⟨rfl, rfl, rfl⟩

theorem dropOn_beside (w : Scene κ) (container : String) : w.Beside (w.dropOn container) := by
  rw [dropOn_eq]
  cases (w.controller.dropOn w.commons container).2 <;> exact ⟨rfl, rfl, rfl⟩

theorem gate?_of_free (h : w.stage = .free) : w.gate? = none := by simp [gate?, h]

theorem gate?_of_idle (h : w.releasing = false) : w.gate? = none := by
  unfold releasing at h
  unfold gate?
  cases hst : w.stage with
  | free => rfl
  | ending session ending => rfl
  | calling p gate => simp [hst] at h
  | waiting p gate waited => simp [hst] at h
  | gone => rfl

/-- A step that opens no gate and calls nobody. -/
def Idles (w : Scene κ) (e : Event κ) : Prop :=
  (w.step e).1.gate? = none ∧ (w.step e).1.gates = e.onGates w.gates ∧ (w.step e).2.call = none

/-- A release that calls opens a gate of its own, which is the latest one. -/
def Opens (w : Scene κ) (e : Event κ) : Prop :=
  ∃ p, (w.step e).2 = .calling p w.gates.length ∧ (w.step e).1.stage = .calling p w.gates.length ∧
    (w.step e).1.gates = w.gates ++ [Gate.fresh] ∧ (w.step e).1.controller.limit = w.controller.limit

theorem gate?_congr {w' : Scene κ} (h : w'.stage = w.stage) : w'.gate? = w.gate? := by
  simp only [gate?, h]

theorem step_free (h : w.stage = .free) (next : Scene κ × Note κ) : w.whenFree next = next := by
  rw [whenFree, if_pos (isFree_iff.mpr h)]

theorem Idles.of_beside {e : Event κ} {next : Scene κ × Note κ} (hn : w.gate? = none)
    (hstep : w.step e = next) (h : w.Beside next) (hg : e.onGates w.gates = w.gates) : Idles w e := by
  obtain ⟨hstage, hgates, hcall⟩ := h
  unfold Idles
  rw [hstep, hg]
  exact ⟨(gate?_congr hstage).trans hn, hgates, hcall⟩

theorem release_idles_or_opens (h : w.stage = .free) : Idles w .release ∨ Opens w .release := by
  have hstep : w.step .release = w.release := step_free h _
  unfold Idles Opens
  rw [hstep]
  unfold release
  cases hs : w.controller.session with
  | none =>
    rw [Controller.release_none hs]
    exact Or.inl ⟨gate?_of_free h, rfl, rfl⟩
  | some session =>
    cases hp : w.commons.poisoned with
    | true =>
      rw [Controller.release_poisoned hs hp]
      exact Or.inl ⟨gate?_of_free h, rfl, rfl⟩
    | false =>
      rw [Controller.release_ok hs hp]
      cases ({ w.controller with phase := .idle, session := none } : Controller κ).judge
          w.commons.board session with
      | ok p => exact Or.inr ⟨p, rfl, rfl, rfl, rfl⟩
      | error ending => exact Or.inl ⟨rfl, rfl, rfl⟩

theorem operates_idles_or_opens (h : w.stage = .free) {e : Event κ} (he : e.operates = true) :
    Idles w e ∨ Opens w e := by
  have hn : w.gate? = none := gate?_of_free h
  cases e with
  | release => exact release_idles_or_opens h
  | start card left => exact Or.inl (.of_beside hn (step_free h _) (start_beside w card left) rfl)
  | move left => exact Or.inl (.of_beside hn (step_free h _) (move_beside w left) rfl)
  | dropOn container => exact Or.inl (.of_beside hn (step_free h _) (dropOn_beside w container) rfl)
  | dismiss =>
    have hstep : w.step .dismiss = (w.dismiss, .nothing) := step_free h _
    refine Or.inl ?_
    unfold Idles
    rw [hstep]
    exact ⟨rfl, rfl, rfl⟩
  | registerZone | registerDraggable | setLimit | setViewport =>
    exact Or.inl (.of_beside hn (step_free h _) ⟨rfl, rfl, rfl⟩ rfl)
  | _ => cases he

/-- What moves a release on does nothing without one, and others do what they do. -/
theorem idles_of_others (hn : w.stage = .free ∨ w.stage = .gone) {e : Event κ} (he : e.operates = false) :
    Idles w e := by
  have hgate : w.gate? = none := by
    rcases hn with hst | hst <;> simp [gate?, hst]
  cases e with
  | settle | callbackReturns | poll | cancel | pass =>
    rcases hn with hst | hst <;>
      simp [Idles, step, settle, callbackReturns, poll, cancel, pass, hst, gate?, Event.onGates, Note.call]
  | edit e => exact ⟨hgate, rfl, call_edited _⟩
  | answer | abandon | poison | heal | increment | decrement => exact ⟨hgate, rfl, rfl⟩
  | _ => cases he

/-- **Every step** while no release is in progress. -/
theorem step_idle (h : w.releasing = false) (e : Event κ) : Idles w e ∨ Opens w e := by
  have hstage : w.stage = .free ∨ w.stage = .gone := by
    unfold releasing at h
    cases hst : w.stage with
    | free => exact Or.inl rfl
    | gone => exact Or.inr rfl
    | _ => rw [hst] at h; cases h
  cases ho : e.operates with
  | false => exact Or.inl (idles_of_others hstage ho)
  | true =>
    rcases hstage with hst | hst
    · exact operates_idles_or_opens hst ho
    · -- A controller that is gone does nothing any more.
      have hstep : w.step e = (w, .nothing) := step_operates ho (by simp [isFree, hst])
      have hgates : e.onGates w.gates = w.gates := congrArg (·.gates) (amid_operates ho)
      exact Or.inl (.of_beside (gate?_of_idle h) hstep ⟨rfl, rfl, rfl⟩ hgates)

end Kanban.Scene
