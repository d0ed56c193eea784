import Kanban.Proofs.Drag.Steps

/-!
# `Proofs.Drag.Sessions` — what a session remembers

A session is opened when a card is taken up, and it remembers the issue and the container that the card had
on the board at that moment. The board may change later or be replaced by another one; moving and dropping
the card keep what the session remembers.

## Contents
- `Scene.takesUp`, `Scene.taken`: the card that was taken up last, as it was then.
- `Entry`, `Entry.aims`: an event with what it told, and whether it decides what the card is over.
- `Leads` and `step_leads`: where the session after a step comes from.
- `Recalls`, `recalls_step`, `recalls_run`: the session beside that card.
-/

namespace Kanban.Scene

variable {κ : Type} {w : Scene κ}

/-! ## The card that was taken up -/

/-- The card that an event takes up, with the identifier that it is stored under, as it is on the board at
    that moment. -/
def takesUp (w : Scene κ) (e : Event κ) : Option (String × Card) :=
  match e, (w.step e).2 with
  | .start card _, .started _ => (w.commons.board.card? card).map fun found => (card, found)
  | _, _ => none

/-- The card that was taken up last after several events, if `before` was taken up before them. -/
def takenFrom (w : Scene κ) (before : Option (String × Card)) : List (Event κ) → Option (String × Card)
  | [] => before
  | e :: es => (w.step e).1.takenFrom ((w.takesUp e).or before) es

/-- The card that was taken up last in several events. -/
def taken (w : Scene κ) (es : List (Event κ)) : Option (String × Card) := w.takenFrom none es

/-- No card is taken up while another one is dragged. -/
theorem takesUp_of_session {x : Session} (h : w.controller.session = some x) (e : Event κ) :
    w.takesUp e = none := by
  cases e with
  | start card left =>
    have hnote : (w.step (.start card left)).2 = .refused (.dragInProgress x.card) ∨
        (w.step (.start card left)).2 = .nothing := by
      show (w.whenFree (w.start card left)).2 = _ ∨ (w.whenFree (w.start card left)).2 = _
      unfold whenFree start
      rw [Controller.start_of_session h]
      split
      · exact Or.inl rfl
      · exact Or.inr rfl
    rcases hnote with hnote | hnote <;> simp [takesUp, hnote]
  | _ => rfl

/-- When a card is taken up, the answer is that the drag has started. -/
theorem exists_started_of_takesUp {card : String} {left : Float}
    (h : (w.takesUp (.start card left)).isSome = true) :
    ∃ issue, (w.step (.start card left)).2 = .started issue := by
  unfold takesUp at h
  cases hnote : (w.step (.start card left)).2 with
  | started issue => exact ⟨issue, rfl⟩
  | _ => rw [hnote] at h; cases h

/-! ## Events with what they told -/

/-- An event with what it told. -/
structure Entry (κ : Type) where
  event : Event κ
  note : Note κ

/-- Whether an entry is a start that opened a session. -/
def Entry.opens : Entry κ → Bool
  | ⟨.start _ _, .started _⟩ => true
  | _ => false

/-- Whether an entry is a drop. While the controller is not free nothing can be dropped, and nothing is told. -/
def Entry.drops : Entry κ → Bool
  | ⟨.dropOn _, .flag _⟩ | ⟨.dropOn _, .refused _⟩ => true
  | _ => false

/-- Whether an entry decides what the card of the session is over. -/
def Entry.aims (a : Entry κ) : Bool := a.opens || a.drops

theorem aims_ofDrop (target : String) (result : Except Fault Bool) :
    (⟨.dropOn target, .ofDrop result⟩ : Entry κ).aims = true := by
  cases result <;> rfl

theorem aims_of_not_operates {e : Event κ} (he : e.operates = false) (note : Note κ) :
    (⟨e, note⟩ : Entry κ).aims = false := by
  cases e with
  | start | dropOn => cases he
  | _ => rfl

/-! ## One step -/

/-- Where the session after an event comes from, beside what the event tells. -/
inductive Leads (w : Scene κ) : Event κ → Note κ → Option Session → Prop where
  /-- The session stays as it is, and is not aimed. -/
  | kept {e note} (ha : w.controller.session.isSome = true → (⟨e, note⟩ : Entry κ).aims = false) :
      Leads w e note w.controller.session
  /-- A card is taken up. -/
  | opened {card left found issue} (ht : w.takesUp (.start card left) = some (card, found)) :
      Leads w (.start card left) (.started issue) (some (w.controller.openSession found card left))
  /-- The helper moves. -/
  | moved {x left note} (hx : w.controller.session = some x) :
      Leads w (.move left) note (some { x with helper := ⟨left, x.helper.width⟩ })
  /-- The card is dropped, on a target that counts or on none. -/
  | aimed {x target} (hx : w.controller.session = some x) :
      Leads w (.dropOn target) (.ofDrop (w.controller.dropResult w.commons x target))
        (some { x with target := Controller.landing target (w.controller.dropResult w.commons x target) })
  /-- The session is given up, by a release or with the controller. -/
  | ended {e note} (he : e = .release ∨ e = .dismiss) : Leads w e note none

theorem Leads.of_whenFree {e : Event κ} {next : Scene κ × Note κ}
    (h : w.isFree = true → Leads w e next.2 next.1.controller.session) :
    Leads w e (w.whenFree next).2 (w.whenFree next).1.controller.session := by
  unfold whenFree
  by_cases hf : w.isFree = true
  · rw [if_pos hf]
    exact h hf
  · rw [if_neg hf]
    -- An operation that is not called tells nothing.
    exact .kept fun _ => by cases e <;> rfl

theorem leads_start (hf : w.isFree = true) (card : String) (left : Float) :
    Leads w (.start card left) (w.start card left).2 (w.start card left).1.controller.session := by
  have hstep : w.step (.start card left) = w.start card left := if_pos hf
  unfold start at hstep ⊢
  cases h : w.controller.start w.commons card left with
  | error fault => exact .kept fun _ => rfl
  | ok result =>
    obtain ⟨c, s⟩ := result
    rw [h] at hstep
    obtain ⟨_, _, _, found, hb, rfl, rfl⟩ := Controller.start_eq_ok h
    exact .opened (by simp [takesUp, hstep, hb])

theorem leads_move (w : Scene κ) (left : Float) :
    Leads w (.move left) (w.move left).2 (w.move left).1.controller.session := by
  unfold move
  cases h : w.controller.move left with
  | error fault => exact .kept fun _ => rfl
  | ok result =>
    obtain ⟨c, x⟩ := result
    obtain ⟨session, hs, hs', _⟩ := Controller.move_eq_ok h
    show Leads w (.move left) _ c.session
    rw [hs']
    exact .moved hs

theorem leads_dropOn (w : Scene κ) (target : String) :
    Leads w (.dropOn target) (w.dropOn target).2 (w.dropOn target).1.controller.session := by
  rw [dropOn_eq]
  cases hs : w.controller.session with
  | none =>
    rw [Controller.dropOn_none hs]
    exact .kept fun hsome => by rw [hs] at hsome; cases hsome
  | some x =>
    rw [Controller.dropOn_of_session hs]
    exact .aimed hs

theorem leads_release (w : Scene κ) :
    Leads w .release w.release.2 w.release.1.controller.session := by
  rcases controller_of_release w with hc | hc
  · rw [hc]
    exact .kept fun _ => rfl
  · rw [hc]
    exact .ended (Or.inl rfl)

theorem leads_dismiss (w : Scene κ) : Leads w .dismiss .nothing w.dismiss.controller.session := by
  unfold dismiss Controller.dismiss
  cases hs : w.controller.session with
  | none => exact .kept fun _ => rfl
  | some x => exact .ended (Or.inr rfl)

/-- **Every step.** -/
theorem step_leads (w : Scene κ) (e : Event κ) :
    Leads w e (w.step e).2 (w.step e).1.controller.session := by
  cases ho : e.operates with
  | false =>
    obtain ⟨phase, hc⟩ := controller_of_not_operates (w := w) ho
    rw [hc]
    exact .kept fun _ => aims_of_not_operates ho _
  | true =>
    cases e with
    | start card left => exact .of_whenFree fun hf => leads_start hf card left
    | move left => exact .of_whenFree fun _ => leads_move w left
    | dropOn target => exact .of_whenFree fun _ => leads_dropOn w target
    | release => exact .of_whenFree fun _ => leads_release w
    | dismiss => exact .of_whenFree fun _ => leads_dismiss w
    | registerZone | registerDraggable | setLimit | setViewport =>
      exact .of_whenFree fun _ => .kept fun _ => rfl
    | _ => cases ho

/-! ## Whole runs -/

/-- A session beside the card that was taken up last: it remembers the card's issue and container, and its
    card is never over that container. -/
def Recalls (taken : Option (String × Card)) (w : Scene κ) : Prop :=
  ∀ x, w.controller.session = some x → ∃ found, taken = some (x.card, found) ∧
    x.issue = found.issue ∧ x.origin = found.container ∧ x.target ≠ some x.origin

/-- **One step** keeps what the session remembers. -/
theorem recalls_step {taken : Option (String × Card)} (h : Recalls taken w) (e : Event κ) :
    Recalls ((w.takesUp e).or taken) (w.step e).1 := by
  have hleads := step_leads w e
  unfold Recalls
  generalize (w.step e).2 = note, (w.step e).1.controller.session = after at hleads ⊢
  intro y hy
  cases hleads with
  | kept =>
    rw [takesUp_of_session hy, Option.none_or]
    exact h y hy
  | opened ht =>
    cases hy
    rw [ht]
    exact ⟨_, rfl, rfl, rfl, by simp [Controller.openSession]⟩
  | @moved x left _ hx =>
    cases hy
    rw [takesUp_of_session hx, Option.none_or]
    exact h x hx
  | @aimed x target hx =>
    cases hy
    rw [takesUp_of_session hx, Option.none_or]
    obtain ⟨found, htaken, hissue, horigin, _⟩ := h x hx
    exact ⟨found, htaken, hissue, horigin, Controller.landing_ne_origin _ _ x target⟩
  | ended => cases hy

/-- **A whole run.** -/
theorem recalls_run {before : Option (String × Card)} (h : Recalls before w) (es : List (Event κ)) :
    Recalls (w.takenFrom before es) (w.run es) := by
  induction es generalizing w before with
  | nil => exact h
  | cons e rest ih => exact ih (recalls_step h e)

end Kanban.Scene
