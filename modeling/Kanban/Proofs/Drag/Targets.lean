import Kanban.Proofs.Board.Operations
import Kanban.Proofs.Drag.Sessions

/-!
# `Proofs.Drag.Targets` — what the dragged card is over

Whether a drop counts is decided when the card is dropped, by what is there at that moment: the drop zones, the
board's lock, the board. The session records the outcome of the latest drop only. Both the zones and the record
can therefore be read off a log of what was done and told: a zone off the latest call that set its callback, the
record off the latest drop of the session.

## Contents
- `Scene.log`, `latest`: what several events told, and the last entry of a kind.
- `step_zones`: only one kind of event sets callbacks.
- `Records`, `records_step`, `records_run`: a scene beside its log.
- `session_of_step`: who leaves the record alone.
- `target_of_latest_drop`: the drops and the record of every run.
-/

namespace Kanban.Scene

variable {κ : Type} {w : Scene κ}

/-! ## Logs -/

/-- Several events with what each of them told. -/
def log (w : Scene κ) : List (Event κ) → List (Entry κ)
  | [] => []
  | e :: es => ⟨e, (w.step e).2⟩ :: (w.step e).1.log es

/-- Whether an entry is a call that set the callback of a zone, or took it away. -/
def Entry.registers (container : String) : Entry κ → Bool
  | ⟨.registerZone other _, .flag _⟩ => other = container
  | _ => false

/-- The last entry of a kind. -/
def latest (kind : Entry κ → Bool) (log : List (Entry κ)) : Option (Entry κ) := (log.filter kind).getLast?

theorem latest_snoc (kind : Entry κ → Bool) (log : List (Entry κ)) (a : Entry κ) :
    latest kind (log ++ [a]) = if kind a then some a else latest kind log := by
  unfold latest
  rw [List.filter_append, List.filter_cons, List.filter_nil]
  cases kind a with
  | true => exact List.getLast?_concat
  | false => rw [if_neg Bool.false_ne_true, if_neg Bool.false_ne_true, List.append_nil]

/-- The latest call for a container set a callback. -/
def Registered (log : List (Entry κ)) (container : String) (callback : κ) : Prop :=
  latest (Entry.registers container) log = some ⟨.registerZone container (some callback), .flag true⟩

/-- The latest drop of the session was on a container, and it counted. A drop before the session was opened
    is none of the session's. -/
def AimedAt (log : List (Entry κ)) (container : String) : Prop :=
  latest Entry.aims log = some ⟨.dropOn container, .flag true⟩

/-! ## One step -/

theorem zones_of_whenFree {next : Scene κ × Note κ} (h : next.1.controller.zones = w.controller.zones) :
    (w.whenFree next).1.controller.zones = w.controller.zones := by
  unfold whenFree
  split
  · exact h
  · rfl

theorem zones_of_start (w : Scene κ) (card : String) (left : Float) :
    (w.start card left).1.controller.zones = w.controller.zones := by
  unfold start
  cases h : w.controller.start w.commons card left with
  | error fault => rfl
  | ok result =>
    obtain ⟨c, s⟩ := result
    obtain ⟨_, _, _, _, _, rfl, _⟩ := Controller.start_eq_ok h
    rfl

theorem zones_of_move (w : Scene κ) (left : Float) :
    (w.move left).1.controller.zones = w.controller.zones := by
  unfold move Controller.move
  cases w.controller.session <;> rfl

theorem zones_of_dropOn (w : Scene κ) (target : String) :
    (w.dropOn target).1.controller.zones = w.controller.zones := by
  obtain ⟨t, ht⟩ := Controller.dropOn_session (c := w.controller) (s := w.commons) target
  rw [dropOn_eq, ht]

theorem zones_of_release (w : Scene κ) : w.release.1.controller.zones = w.controller.zones := by
  rcases controller_of_release w with hc | hc <;> rw [hc]

theorem zones_of_dismiss (w : Scene κ) : w.dismiss.controller.zones = w.controller.zones := by
  unfold dismiss Controller.dismiss
  cases w.controller.session <;> rfl

/-- **One step** leaves the zones alone, unless it is a call that sets the callback of one of them. -/
theorem step_zones (w : Scene κ) (e : Event κ) :
    (∃ container callback, e = .registerZone container callback ∧
        (w.step e).2 = .flag callback.isSome ∧
        (w.step e).1.controller.zones = w.controller.zones.register container callback) ∨
      (∀ container, Entry.registers container ⟨e, (w.step e).2⟩ = false) ∧
        (w.step e).1.controller.zones = w.controller.zones := by
  cases ho : e.operates with
  | false =>
    obtain ⟨phase, hc⟩ := controller_of_not_operates (w := w) ho
    exact Or.inr ⟨fun _ => by cases e with | registerZone => cases ho | _ => rfl, by rw [hc]⟩
  | true =>
    cases e with
    | registerZone container callback =>
      by_cases hf : w.isFree = true
      · have hstep : w.step (.registerZone container callback) =
            ({ w with controller := w.controller.registerZone container callback },
              .flag callback.isSome) := if_pos hf
        rw [hstep]
        exact Or.inl ⟨container, callback, rfl, rfl, rfl⟩
      · have hstep : w.step (.registerZone container callback) = (w, .nothing) := if_neg hf
        rw [hstep]
        exact Or.inr ⟨fun _ => rfl, rfl⟩
    | start card left => exact Or.inr ⟨fun _ => rfl, zones_of_whenFree (zones_of_start w card left)⟩
    | move left => exact Or.inr ⟨fun _ => rfl, zones_of_whenFree (zones_of_move w left)⟩
    | dropOn target => exact Or.inr ⟨fun _ => rfl, zones_of_whenFree (zones_of_dropOn w target)⟩
    | release => exact Or.inr ⟨fun _ => rfl, zones_of_whenFree (zones_of_release w)⟩
    | dismiss => exact Or.inr ⟨fun _ => rfl, zones_of_whenFree (zones_of_dismiss w)⟩
    | registerDraggable | setLimit | setViewport => exact Or.inr ⟨fun _ => rfl, zones_of_whenFree rfl⟩
    | _ => cases ho

/-- **One step** keeps a session and what its card is over, unless the step is a drop, a release, or the end of
    the controller. -/
theorem session_of_step {x : Session} {e : Event κ} (hx : w.controller.session = some x)
    (hdrop : ∀ target, e ≠ .dropOn target) (hrelease : e ≠ .release) (hdismiss : e ≠ .dismiss) :
    ∃ y, (w.step e).1.controller.session = some y ∧ y.target = x.target := by
  have hleads := step_leads w e
  generalize (w.step e).2 = note, (w.step e).1.controller.session = after at hleads ⊢
  cases hleads with
  | kept => exact ⟨x, hx, rfl⟩
  | opened ht =>
    rw [takesUp_of_session hx] at ht
    cases ht
  | moved hx' =>
    rw [hx] at hx'
    cases hx'
    exact ⟨_, rfl, rfl⟩
  | @aimed _ target => exact absurd rfl (hdrop target)
  | ended he =>
    rcases he with he | he
    · exact absurd he hrelease
    · exact absurd he hdismiss

/-- A controller with a session is free. -/
theorem isFree_of_session {x : Session} (hq : w.Quiet) (hx : w.controller.session = some x) :
    w.isFree = true := by
  cases hf : w.isFree with
  | true => rfl
  | false =>
    rw [hq hf] at hx
    cases hx

/-- A drop by a free controller. -/
theorem step_dropOn {x : Session} (hf : w.isFree = true) (hx : w.controller.session = some x)
    (target : String) :
    w.step (.dropOn target) =
      (let result := w.controller.dropResult w.commons x target
       ({ w with controller := w.controller.aimed x (Controller.landing target result) },
        .ofDrop result)) := by
  have hstep : w.step (.dropOn target) = w.dropOn target := if_pos hf
  rw [hstep, dropOn_eq, Controller.dropOn_of_session hx]

/-! ## A scene beside its log -/

/-- A scene beside all that was told so far: the callbacks of the zones are those that were set last, and the
    card of the session is over what it was dropped on last. -/
structure Records (past : List (Entry κ)) (w : Scene κ) : Prop where
  zones : ∀ container callback,
    w.controller.zones.callback? container = some callback ↔ Registered past container callback
  target : ∀ x, w.controller.session = some x → ∀ container,
    x.target = some container ↔ AimedAt past container

theorem records_new (viewport : Viewport) (s : Commons) :
    Records [] (Scene.new (Controller.new viewport) s : Scene κ) :=
  ⟨fun _ _ => ⟨fun h => (by cases h), fun h => (by cases h)⟩, fun _ h => (by cases h)⟩

variable {past : List (Entry κ)} {a : Entry κ} {container : String} {callback : κ}

theorem registered_snoc (h : a.registers container = false) :
    Registered (past ++ [a]) container callback ↔ Registered past container callback := by
  unfold Registered
  rw [latest_snoc, h, if_neg Bool.false_ne_true]

theorem aimedAt_snoc (h : a.aims = false) : AimedAt (past ++ [a]) container ↔ AimedAt past container := by
  unfold AimedAt
  rw [latest_snoc, h, if_neg Bool.false_ne_true]

/-- A call sets the callback of its own container. -/
theorem registered_snoc_call (container : String) (set : Option κ) (other : String) :
    Registered (past ++ [⟨.registerZone container set, .flag set.isSome⟩]) other callback ↔
      if other = container then set = some callback else Registered past other callback := by
  by_cases h : other = container
  · subst h
    have hregisters : Entry.registers other ⟨.registerZone other set, .flag set.isSome⟩ = true := by
      simp [Entry.registers]
    rw [if_pos rfl, Registered, latest_snoc, if_pos hregisters]
    cases set <;> simp
  · rw [if_neg h]
    exact registered_snoc (by simpa [Entry.registers] using Ne.symm h)

/-- A drop aims at its own container if it counts, and at none otherwise. -/
theorem aimedAt_snoc_dropped (target : String) (result : Except Fault Bool) :
    AimedAt (past ++ [⟨.dropOn target, .ofDrop result⟩]) container ↔
      Controller.landing target result = some container := by
  unfold AimedAt
  rw [latest_snoc, if_pos (aims_ofDrop target result)]
  rcases result with fault | counts
  · simp [Note.ofDrop, Controller.landing]
  · cases counts <;> simp [Note.ofDrop, Controller.landing]

/-- **One step** is recorded. -/
theorem records_step (h : Records past w) (e : Event κ) :
    Records (past ++ [⟨e, (w.step e).2⟩]) (w.step e).1 := by
  constructor
  · intro other callback
    rcases step_zones w e with ⟨container, set, rfl, hnote, hzones⟩ | ⟨hregisters, hzones⟩
    · rw [hnote, hzones, DropZones.callback?_register, registered_snoc_call]
      by_cases hother : other = container
      · rw [if_pos hother, if_pos hother]
      · rw [if_neg hother, if_neg hother]
        exact h.zones other callback
    · rw [hzones, registered_snoc (hregisters other)]
      exact h.zones other callback
  · have hleads := step_leads w e
    generalize (w.step e).2 = note, (w.step e).1.controller.session = after at hleads ⊢
    intro y hy container
    cases hleads with
    | kept ha =>
      rw [aimedAt_snoc (ha (by rw [hy]; rfl))]
      exact h.target y hy container
    | opened ht =>
      -- What the card taken up before this one was over is no longer the last word.
      cases hy
      unfold AimedAt
      rw [latest_snoc]
      simp [Controller.openSession, Entry.aims, Entry.opens]
    | @moved x left note hx =>
      cases hy
      rw [aimedAt_snoc rfl]
      exact h.target x hx container
    | aimed hx =>
      cases hy
      exact (aimedAt_snoc_dropped _ _).symm
    | ended => cases hy

/-- **A whole run** is recorded. -/
theorem records_run (h : Records past w) (es : List (Event κ)) : Records (past ++ w.log es) (w.run es) := by
  induction es generalizing w past with
  | nil => simpa [log] using h
  | cons e rest ih =>
    have hrest := ih (records_step h e)
    rwa [List.append_assoc, List.singleton_append] at hrest

/-! ## Drops -/

/-- **A drop counts by what is there when it happens, and the latest one has the last word.** In every run of a
    controller, with whatever happens to the board and its lock, and with a session:
    - A drop counts exactly if the latest call for its container set a callback, the board is in good order,
      the container is there and open, and the card neither comes from there nor is there already. It fails
      exactly if there is a callback and the board is poisoned or has no such container.
    - The drop is recorded if it counts. If it does not, or if it fails, an earlier one is erased.
    - The recorded target is the container of the latest drop of the session, if that counted, and it is never
      where the card comes from.
    - Nothing else changes it, as long as the session is neither released nor lost with its controller. -/
theorem target_of_latest_drop (viewport : Viewport) (s : Commons) (es : List (Event κ)) {x : Session}
    (hx : ((Scene.new (Controller.new viewport) s).run es).controller.session = some x) :
    let first : Scene κ := Scene.new (Controller.new viewport) s
    let w := first.run es
    let board := w.commons.board
    (∀ t, ∃ result,
        (w.step (.dropOn t)).2 = .ofDrop result ∧
        (w.step (.dropOn t)).1.controller.session =
          some { x with target := Controller.landing t result } ∧
        (result = .ok true ↔
          (∃ callback, Registered (first.log es) t callback) ∧ w.commons.poisoned = false ∧
            ∃ k, board.container? t = some k ∧ k.droppable = true ∧ t ≠ x.origin ∧
              ∃ c, board.card? x.card = some c ∧ c.container ≠ t) ∧
        ∀ fault, result = .error fault ↔
          (∃ callback, Registered (first.log es) t callback) ∧
            (w.commons.poisoned = true ∧ fault = .boardUnavailable ∨
              w.commons.poisoned = false ∧ board.container? t = none ∧ fault = .unknownContainer t)) ∧
      (∀ t, x.target = some t ↔ AimedAt (first.log es) t) ∧
      x.target ≠ some x.origin ∧
      ∀ e, (∀ t, e ≠ .dropOn t) → e ≠ .release → e ≠ .dismiss →
        ∃ y, (w.step e).1.controller.session = some y ∧ y.target = x.target := by
  intro first w board
  have hrecords : Records (first.log es) w := by
    have hrun := records_run (records_new viewport s) es
    rwa [List.nil_append] at hrun
  have hzone : ∀ t, w.controller.zones.isRegistered t = true ↔
      ∃ callback, Registered (first.log es) t callback := by
    intro t
    rw [DropZones.isRegistered_iff]
    exact exists_congr fun callback => hrecords.zones t callback
  have hfree : w.isFree = true := isFree_of_session (quiet_run quiet_new es) hx
  refine ⟨fun t => ?_, hrecords.target x hx, ?_, fun e => session_of_step hx⟩
  · refine ⟨w.controller.dropResult w.commons x t, ?_, ?_, ?_, fun fault => ?_⟩
    · rw [step_dropOn hfree hx]
    · rw [step_dropOn hfree hx]
      rfl
    · rw [Controller.dropResult_eq_true, hzone t]
      simp only [Board.canAccept_iff, board]
    · rw [Controller.dropResult_eq_error, hzone t]
  · have hrecalls : Recalls (first.taken es) w := recalls_run (fun _ hnew => by cases hnew) es
    obtain ⟨_, _, _, _, htarget⟩ := hrecalls x hx
    exact htarget

/-- A card is dropped on a column that is closed afterwards. -/
def closedAfter : List (Event Unit) :=
  [.edit (.addContainer "todo" true), .edit (.addContainer "done" true),
    .edit (.addCard "todo" "c1" .null 100), .registerZone "done" (some ()), .registerDraggable "c1" true,
    .start "c1" 0, .dropOn "done", .edit (.setDroppable "done" false)]

/-- The column stays the target until the card is dropped on it once more, which does not count. -/
theorem target_of_latest_drop_closedAfter :
    let first : Scene Unit := Scene.new (Controller.new ⟨⟨0, 500⟩, 500, 0⟩) (.ofBoard .empty)
    let w := first.run closedAfter
    ∃ x, w.controller.session = some x ∧ x.target = some "done" ∧ AimedAt (first.log closedAfter) "done" ∧
      (∃ y, (w.step (.move 7)).1.controller.session = some y ∧ y.target = some "done") ∧
      (w.step (.dropOn "done")).1.controller.session = some { x with target := none } := by
  have htarget := fun x hx =>
    target_of_latest_drop ⟨⟨0, 500⟩, 500, 0⟩ (.ofBoard .empty) closedAfter (x := x) hx
  have hfacts :
      let w : Scene Unit :=
        (Scene.new (Controller.new ⟨⟨0, 500⟩, 500, 0⟩) (.ofBoard .empty)).run closedAfter
      w.controller.session.isSome = true ∧ w.controller.session.bind (·.target) = some "done" ∧
        (w.commons.board.container? "done").map (·.droppable) = some false := by
    decide +kernel
  -- From here on the scene is whatever it is; only these facts about it matter.
  generalize (Scene.new (Controller.new ⟨⟨0, 500⟩, 500, 0⟩) (.ofBoard .empty) : Scene Unit) = first
    at htarget hfacts ⊢
  intro _ w
  obtain ⟨hsession, hdone, hclosed⟩ := hfacts
  obtain ⟨x, hx⟩ := Option.isSome_iff_exists.mp hsession
  rw [hx] at hdone
  obtain ⟨hdrops, haimed, _, hkept⟩ := htarget x hx
  obtain ⟨y, hy, hmoved⟩ := hkept (.move 7) (fun _ h => by cases h) (fun h => by cases h)
    (fun h => by cases h)
  obtain ⟨result, _, hafter, hcounts, _⟩ := hdrops "done"
  have hnot : result ≠ .ok true := by
    intro hresult
    obtain ⟨_, _, k, hk, hopen, _⟩ := hcounts.mp hresult
    rw [hk, Option.map_some, hopen] at hclosed
    cases hclosed
  rw [Controller.landing_of_ne hnot] at hafter
  exact ⟨x, hx, hdone, (haimed "done").mp hdone, ⟨y, hy, hmoved.trans hdone⟩, hafter⟩

end Kanban.Scene
