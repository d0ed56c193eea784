import Kanban.Drag.Scene

/-!
# `Proofs.Drag.Steps` — what one step of a scene does

Everything that can happen in a scene changes the card in hand and the shared things in one of seven ways.
The invariants of a scene are proved from these ways and never from `Scene.step` itself.

## Contents
- `Commons.letGo_of_clean`, `letGo_of_poisoned`: letting go of a card, on either kind of board.
- `start_eq_ok`, `move_eq_ok`, `dropOn_of_session`, `judge_session`: what the operations of a controller do;
  `start_of_card`, `dropResult_eq_true`, `release_ok` and others: when.
- `Scene.inHand`: the card of the session or of the release in progress; `Scene.Quiet`.
- `Event.operates`, `controller_of_not_operates`: the controller's own operations, and all other events.
- `Scene.clears`, `Scene.givesUp`: how a drag comes to its end.
- `Scene.Effect` and `step_effect`: the seven ways.
-/

namespace Kanban

/-! ## What is shared -/

namespace Commons

@[simp] theorem mark_poisoned (s : Commons) (card : String) (d : Bool) :
    (s.mark card d).poisoned = s.poisoned := rfl
@[simp] theorem mark_activity (s : Commons) (card : String) (d : Bool) :
    (s.mark card d).activity = s.activity := rfl
@[simp] theorem hold_board (s : Commons) : s.hold.board = s.board := rfl
@[simp] theorem hold_poisoned (s : Commons) : s.hold.poisoned = s.poisoned := rfl
@[simp] theorem hold_count (s : Commons) : s.hold.activity.count = s.activity.count + 1 := rfl
@[simp] theorem unhold_board (s : Commons) : s.unhold.board = s.board := rfl
@[simp] theorem unhold_poisoned (s : Commons) : s.unhold.poisoned = s.poisoned := rfl
@[simp] theorem unhold_count (s : Commons) : s.unhold.activity.count = s.activity.count - 1 := rfl

theorem lock_of_poisoned {s : Commons} (h : s.poisoned = true) : s.lock = .error .boardUnavailable := by
  simp [lock, h]

theorem lock_of_clean {s : Commons} (h : s.poisoned = false) : s.lock = .ok s.board := by
  simp [lock, h]

/-- Letting go of a card on a poisoned board changes nothing but the count. -/
theorem letGo_of_poisoned {s : Commons} (card : String) (h : s.poisoned = true) :
    s.letGo card = (s.unhold, .error .boardUnavailable) := by
  simp [letGo, lock_of_poisoned h]

theorem letGo_of_clean {s : Commons} (card : String) (h : s.poisoned = false) :
    s.letGo card = ((s.mark card false).unhold, .ok ()) := by
  simp [letGo, lock_of_clean h]

/-- Poisoned or not, letting go of a card gives one unit back. -/
theorem letGo_count (s : Commons) (card : String) :
    (s.letGo card).1.activity.count = s.activity.count - 1 := by
  cases h : s.poisoned with
  | true => rw [letGo_of_poisoned card h]; rfl
  | false => rw [letGo_of_clean card h]; rfl

end Commons

/-! ## The operations of a controller -/

namespace Controller

variable {κ : Type} {c c' : Controller κ} {s s' : Commons}

/-- **A start that succeeds.** There was no session, the card may be dragged, and it is on a board in good
    order. -/
theorem start_eq_ok {card : String} {left : Float} (h : c.start s card left = .ok (c', s')) :
    c.session = none ∧ c.draggables.contains card = true ∧ s.poisoned = false ∧
      ∃ found, s.board.card? card = some found ∧
        c' = { c with phase := .dragging, session := some (c.openSession found card left) } ∧
        s' = (s.mark card true).hold := by
  unfold start at h
  cases hs : c.session with
  | some session => rw [hs] at h; cases h
  | none =>
    rw [hs] at h
    by_cases hd : c.draggables.contains card = true
    · -- The board is looked at only now, after the session and the registration.
      cases hp : s.poisoned with
      | true => simp [hd, Commons.lock_of_poisoned hp, bind, Except.bind] at h
      | false =>
        simp only [hd, Commons.lock_of_clean hp, bind, Except.bind] at h
        cases hb : s.board.card? card with
        | none => rw [hb] at h; cases h
        | some found =>
          rw [hb] at h
          cases h
          exact ⟨rfl, hd, rfl, found, rfl, rfl, rfl⟩
    · simp [hd, bind, Except.bind, throw, throwThe, MonadExceptOf.throw] at h

/-- No card is taken up while another one is dragged. -/
theorem start_of_session {session : Session} (h : c.session = some session) (card : String) (left : Float) :
    c.start s card left = .error (.dragInProgress session.card) := by
  rw [start, h]
  rfl

/-- No card is taken up that may not be dragged. -/
theorem start_of_forbidden {card : String} (h : c.session = none) (hd : c.draggables.contains card = false)
    (left : Float) : c.start s card left = .error (.notDraggable card) := by
  rw [start, h, hd]
  rfl

/-- No card is taken up from a poisoned board. -/
theorem start_of_poisoned {card : String} (h : c.session = none) (hd : c.draggables.contains card = true)
    (hp : s.poisoned = true) (left : Float) : c.start s card left = .error .boardUnavailable := by
  rw [start, h, hd, Commons.lock_of_poisoned hp]
  rfl

/-- No card is taken up that is not there. -/
theorem start_of_nowhere {card : String} (h : c.session = none) (hd : c.draggables.contains card = true)
    (hp : s.poisoned = false) (hb : s.board.card? card = none) (left : Float) :
    c.start s card left = .error (.unknownCard card) := by
  rw [start, h, hd, Commons.lock_of_clean hp]
  simp only [bind, Except.bind, hb]
  rfl

/-- **A card is taken up** if nothing stands against it. -/
theorem start_of_card {card : String} {found : Card} (h : c.session = none)
    (hd : c.draggables.contains card = true) (hp : s.poisoned = false)
    (hb : s.board.card? card = some found) (left : Float) :
    c.start s card left = .ok ({ c with phase := .dragging, session := some (c.openSession found card left) },
      (s.mark card true).hold) := by
  rw [start, h, hd, Commons.lock_of_clean hp]
  simp only [bind, Except.bind, hb]
  rfl

/-- **A start that is refused:** the four reasons, in the order in which they are looked for. -/
theorem start_eq_error {card : String} {left : Float} {fault : Fault} :
    c.start s card left = .error fault ↔
      (∃ x, c.session = some x ∧ fault = .dragInProgress x.card) ∨
        c.session = none ∧ (c.draggables.contains card = false ∧ fault = .notDraggable card ∨
          c.draggables.contains card = true ∧ (s.poisoned = true ∧ fault = .boardUnavailable ∨
            s.poisoned = false ∧ s.board.card? card = none ∧ fault = .unknownCard card)) := by
  cases hs : c.session with
  | some x => simp [start_of_session hs, @eq_comm _ fault]
  | none =>
    cases hd : c.draggables.contains card with
    | false => simp [start_of_forbidden hs hd, @eq_comm _ fault]
    | true =>
      cases hp : s.poisoned with
      | true => simp [start_of_poisoned hs hd hp, @eq_comm _ fault]
      | false =>
        cases hb : s.board.card? card with
        | none => simp [start_of_nowhere hs hd hp hb, @eq_comm _ fault]
        | some found => simp [start_of_card hs hd hp hb]

/-! ### Dropping -/

/-- The controller once its card is over a drop target, or over none. -/
def aimed (c : Controller κ) (session : Session) (target : Option String) : Controller κ :=
  { c with session := some { session with target } }

theorem dropOn_none (h : c.session = none) (target : String) :
    c.dropOn s target = (c, .error .noActiveDrag) := by
  rw [dropOn, h]

theorem dropCounts_of_poisoned {session : Session} (hp : s.poisoned = true) (target : String) :
    dropCounts s session target = .error .boardUnavailable := by
  rw [dropCounts, Commons.lock_of_poisoned hp]
  rfl

theorem dropCounts_of_nowhere {session : Session} {target : String} (hp : s.poisoned = false)
    (hk : s.board.container? target = none) :
    dropCounts s session target = .error (.unknownContainer target) := by
  simp only [dropCounts, Commons.lock_of_clean hp, bind, Except.bind, Board.findContainer, hk]

theorem dropCounts_of_container {session : Session} {target : String} {k : Container}
    (hp : s.poisoned = false) (hk : s.board.container? target = some k) :
    dropCounts s session target =
      .ok (k.droppable && decide (target ≠ session.origin) && s.board.canAccept session.card target) := by
  simp only [dropCounts, Commons.lock_of_clean hp, bind, Except.bind, Board.findContainer, hk]
  rfl

/-- What a drop of a session's card comes to. -/
def dropResult (c : Controller κ) (s : Commons) (session : Session) (target : String) : Except Fault Bool :=
  if c.zones.isRegistered target then dropCounts s session target else .ok false

/-- The container that the card is over after a drop on `target`: that one if the drop counts, and none if
    it does not, or if it fails. -/
def landing (target : String) : Except Fault Bool → Option String
  | .ok true => some target
  | _ => none

theorem landing_of_ne {target : String} {result : Except Fault Bool} (h : result ≠ .ok true) :
    landing target result = none := by
  unfold landing
  split
  · exact absurd rfl h
  · rfl

/-- **A drop** aims at the container or at none, and keeps all else. -/
theorem dropOn_of_session {session : Session} (h : c.session = some session) (target : String) :
    c.dropOn s target =
      (c.aimed session (landing target (c.dropResult s session target)),
        c.dropResult s session target) := by
  rw [dropOn, h]
  unfold dropResult
  dsimp only
  by_cases hz : c.zones.isRegistered target = true
  · rw [if_pos hz, if_pos hz]
    cases dropCounts s session target with
    | error fault => rfl
    | ok counts => cases counts <;> rfl
  · rw [if_neg hz, if_neg hz]
    rfl

/-- A drop beside all zones erases an earlier one. -/
theorem dropOn_unregistered {session : Session} {target : String} (h : c.session = some session)
    (hz : c.zones.isRegistered target = false) : c.dropOn s target = (c.aimed session none, .ok false) := by
  rw [dropOn_of_session h, dropResult, if_neg (by simp [hz])]
  rfl

/-- A drop on a zone that is a container counts if the container is open, is not where the card comes from,
    and can take the card. -/
theorem dropOn_registered {session : Session} {target : String} {k : Container}
    (h : c.session = some session) (hz : c.zones.isRegistered target = true) (hp : s.poisoned = false)
    (hk : s.board.container? target = some k) :
    c.dropOn s target =
      (let counts := k.droppable && decide (target ≠ session.origin) && s.board.canAccept session.card target
       (c.aimed session (if counts then some target else none), .ok counts)) := by
  rw [dropOn_of_session h, dropResult, if_pos hz, dropCounts_of_container hp hk]
  dsimp only
  cases k.droppable && decide (target ≠ session.origin) && s.board.canAccept session.card target <;> rfl

/-- **A drop that counts** is one on a zone and on an open container, which is neither where the card comes
    from nor where it is. -/
theorem dropResult_eq_true {session : Session} {target : String} :
    c.dropResult s session target = .ok true ↔
      c.zones.isRegistered target = true ∧ s.poisoned = false ∧
        ∃ k, s.board.container? target = some k ∧ k.droppable = true ∧ target ≠ session.origin ∧
          s.board.canAccept session.card target = true := by
  unfold dropResult
  by_cases hz : c.zones.isRegistered target = true
  · rw [if_pos hz]
    cases hp : s.poisoned with
    | true => simp [dropCounts_of_poisoned hp]
    | false =>
      cases hk : s.board.container? target with
      | none => simp [dropCounts_of_nowhere hp hk]
      | some k => simp [dropCounts_of_container hp hk, hz, and_assoc]
  · rw [if_neg hz]
    simp [hz]

/-- **A drop that fails** is one on a zone for which the board cannot be asked. -/
theorem dropResult_eq_error {session : Session} {target : String} {fault : Fault} :
    c.dropResult s session target = .error fault ↔
      c.zones.isRegistered target = true ∧
        (s.poisoned = true ∧ fault = .boardUnavailable ∨
          s.poisoned = false ∧ s.board.container? target = none ∧ fault = .unknownContainer target) := by
  unfold dropResult
  by_cases hz : c.zones.isRegistered target = true
  · rw [if_pos hz]
    cases hp : s.poisoned with
    | true => simp [dropCounts_of_poisoned hp, hz, eq_comm]
    | false =>
      cases hk : s.board.container? target with
      | none => simp [dropCounts_of_nowhere hp hk, hz, eq_comm]
      | some k => simp [dropCounts_of_container hp hk]
  · rw [if_neg hz]
    simp [hz]

/-- No drop leaves the card over the container that it comes from. -/
theorem landing_ne_origin (c : Controller κ) (s : Commons) (session : Session) (target : String) :
    landing target (c.dropResult s session target) ≠ some session.origin := by
  unfold landing
  split
  next hresult =>
    obtain ⟨_, _, k, _, _, hne, _⟩ := dropResult_eq_true.mp hresult
    exact fun h => hne (Option.some.inj h)
  next => exact fun h => (by cases h)

/-- Dropping keeps everything about the session but the target. -/
theorem dropOn_session (target : String) :
    ∃ t : Option String, (c.dropOn s target).1 = { c with session := c.session.map fun x =>
      { x with target := t } } := by
  cases hs : c.session with
  | none =>
    rw [dropOn_none hs]
    exact ⟨none, by rw [Option.map_none, ← hs]⟩
  | some session =>
    rw [dropOn_of_session hs]
    exact ⟨_, rfl⟩

/-! ### Releasing and moving -/

theorem release_none (h : c.session = none) : c.release s = (c, s, .refused .noActiveDrag) := by
  simp [release, h]

theorem release_poisoned {session : Session} (h : c.session = some session) (hp : s.poisoned = true) :
    c.release s =
      ({ c with phase := .idle, session := none }, s.unhold, .refused .boardUnavailable) := by
  simp [release, h, Commons.lock_of_poisoned hp]

/-- **A release on a board in good order** takes the session, and keeps the unit of activity, whether it
    asks somebody or not. -/
theorem release_ok {session : Session} (h : c.session = some session) (hp : s.poisoned = false) :
    c.release s = ({ c with phase := .idle, session := none }, s,
      match ({ c with phase := .idle, session := none } : Controller κ).judge s.board session with
      | .ok pending => .calling pending
      | .error ending => .ending session ending) := by
  simp only [release, h, Commons.lock_of_clean hp]
  cases ({ c with phase := .idle, session := none } : Controller κ).judge s.board session <;> rfl

/-- Whoever is asked about a release is asked about the session that was released. -/
theorem judge_session {b : Board} {session : Session} {p : Pending κ} (h : c.judge b session = .ok p) :
    p.session = session := by
  unfold judge at h
  cases ht : session.target with
  | none => rw [ht] at h; cases h
  | some target =>
    rw [ht] at h
    dsimp only at h
    -- Of all ways through a release this is the only one that calls.
    split at h
    · cases hz : c.zones.callback? target with
      | none => rw [hz] at h; cases h
      | some callback => rw [hz] at h; cases h; rfl
    · cases h

/-- Nobody is asked about a card that is not over a target. -/
theorem judge_nowhere {session : Session} (h : session.target = none) (b : Board) :
    c.judge b session = .error .nowhere := by
  rw [judge, h]

/-- Nobody is asked about a card that is where it was dropped. -/
theorem judge_sameContainer {b : Board} {session : Session} {target : String}
    (h : session.target = some target) (hb : (b.card? session.card).map (·.container) = some target) :
    c.judge b session = .error (.sameContainer target) := by
  rw [judge, h]
  simp only [hb, ne_eq, not_true, and_false, if_false]

/-- Nobody can be asked if the zone of the target is gone. -/
theorem judge_zoneGone {b : Board} {session : Session} {target : String}
    (h : session.target = some target) (ho : target ≠ session.origin)
    (hb : (b.card? session.card).map (·.container) ≠ some target) (hz : c.zones.callback? target = none) :
    c.judge b session = .error (.zoneGone target) := by
  rw [judge, h]
  simp only [hz]
  rw [if_pos ⟨ho, hb⟩]

/-- **The zone of the target is asked** if the card comes from elsewhere and is elsewhere. -/
theorem judge_asks {b : Board} {session : Session} {target : String} {callback : κ}
    (h : session.target = some target) (ho : target ≠ session.origin)
    (hb : (b.card? session.card).map (·.container) ≠ some target)
    (hz : c.zones.callback? target = some callback) :
    c.judge b session = .ok ⟨session, target, callback⟩ := by
  rw [judge, h]
  simp only [hz]
  rw [if_pos ⟨ho, hb⟩]

/-- Moving keeps everything about the session but the place of the helper. -/
theorem move_eq_ok {left x : Float} (h : c.move left = .ok (c', x)) :
    ∃ session, c.session = some session ∧
      c'.session = some { session with helper := ⟨left, session.helper.width⟩ } ∧ c'.phase = c.phase ∧
      c'.limit = c.limit := by
  unfold move at h
  cases hs : c.session with
  | none => rw [hs] at h; cases h
  | some session => rw [hs] at h; cases h; exact ⟨session, rfl, rfl, rfl, rfl⟩

end Controller

/-! ## The card in hand -/

namespace Scene

variable {κ : Type}

/-- The card of the session or of the release that is in progress. -/
def inHand (w : Scene κ) : Option String :=
  match w.stage with
  | .free => w.controller.session.map (·.card)
  | .ending session _ => some session.card
  | .calling p _ | .waiting p _ _ => some p.session.card
  | .gone => none

/-- Whether a release is in progress: it is about to end, its callback runs, or it waits. -/
def releasing (w : Scene κ) : Bool :=
  match w.stage with
  | .ending _ _ | .calling _ _ | .waiting _ _ _ => true
  | .free | .gone => false

/-- A release has taken its session, and a controller that is gone has none. -/
def Quiet (w : Scene κ) : Prop := w.isFree = false → w.controller.session = none

/-- Whether an event is an operation of the controller, which has to be free for it. -/
def Event.operates : Event κ → Bool
  | .registerZone _ _ | .registerDraggable _ _ | .setLimit _ | .setViewport _ _ | .start _ _ | .move _
  | .dropOn _ | .release | .dismiss => true
  | _ => false

/-- What is no operation of the controller changes at most what others see of it. -/
theorem controller_of_not_operates {w : Scene κ} {e : Event κ} (he : e.operates = false) :
    ∃ phase, (w.step e).1.controller = { w.controller with phase } := by
  cases e with
  | settle =>
    show ∃ phase, w.settle.1.controller = { w.controller with phase }
    unfold settle
    split <;> exact ⟨_, rfl⟩
  | callbackReturns =>
    show ∃ phase, w.callbackReturns.controller = { w.controller with phase }
    unfold callbackReturns
    split <;> exact ⟨_, rfl⟩
  | poll =>
    show ∃ phase, w.poll.1.controller = { w.controller with phase }
    unfold poll
    split
    · split <;> exact ⟨_, rfl⟩
    · exact ⟨_, rfl⟩
  | cancel =>
    show ∃ phase, w.cancel.controller = { w.controller with phase }
    unfold cancel
    split <;> exact ⟨_, rfl⟩
  | pass ms =>
    show ∃ phase, (w.pass ms).controller = { w.controller with phase }
    unfold pass
    split <;> exact ⟨_, rfl⟩
  | answer | abandon | edit | poison | heal | increment | decrement => exact ⟨_, rfl⟩
  | _ => cases he

/-- The card whose drag an event brings to its end by taking its mark off. -/
def clears (w : Scene κ) : Event κ → Option String
  | .settle =>
    match w.stage with
    | .ending session _ => some session.card
    | _ => none
  | .poll =>
    match w.stage with
    | .waiting p gate waited =>
      if ((w.gates.getD gate Gate.fresh).verdict w.controller.limit waited).isSome then
        some p.session.card
      else none
    | _ => none
  | _ => none

/-- The card whose drag an event gives up: its pending release is dropped, or the whole controller while
    the session is open. -/
def givesUp (w : Scene κ) : Event κ → Option String
  | .cancel =>
    match w.stage with
    | .waiting p _ _ => some p.session.card
    | _ => none
  | .dismiss =>
    match w.stage with
    | .free => w.controller.session.map (·.card)
    | _ => none
  | _ => none

/-- What an event of others does to the shared things. The controller's own events are not among these. -/
def Event.amid (e : Event κ) (s : Commons) : Commons :=
  match e with
  | .edit e => { s with board := (s.board.attempt e).1 }
  | .poison => { s with poisoned := true }
  | .heal => { s with poisoned := false }
  | .increment => s.hold
  | .decrement => s.unhold
  | _ => s

/-- **What one step does** to the card in hand and to the shared things. -/
inductive Effect (w : Scene κ) : Event κ → Option String → Commons → Prop where
  /-- The card in hand stays in hand, and only others change the shared things. -/
  | kept {e} (hc : w.clears e = none) (hg : w.givesUp e = none) : Effect w e w.inHand (e.amid w.commons)
  /-- A card on a board in good order is taken up, marked, and counted. -/
  | takenUp {card left} (hn : w.inHand = none) (hp : w.commons.poisoned = false)
      (hb : (w.commons.board.card? card).isSome) :
      Effect w (.start card left) (some card) (w.commons.mark card true).hold
  /-- A release finds the board poisoned at its first look. -/
  | refused {card} (hh : w.inHand = some card) (hp : w.commons.poisoned = true) :
      Effect w .release none w.commons.unhold
  /-- A release that asks nobody ends. -/
  | settled {card} (hh : w.inHand = some card) (hc : w.clears .settle = some card) :
      Effect w .settle none (w.commons.letGo card).1
  /-- A release that waits has its confirmation. -/
  | concluded {card} (hh : w.inHand = some card) (hc : w.clears .poll = some card) :
      Effect w .poll none (w.commons.letGo card).1
  /-- A release that waits is given up. -/
  | cancelled {card} (hh : w.inHand = some card) (hg : w.givesUp .cancel = some card) :
      Effect w .cancel none w.commons.unhold
  /-- The controller goes away in the middle of a drag. -/
  | dismissed {card} (hh : w.inHand = some card) (hg : w.givesUp .dismiss = some card) :
      Effect w .dismiss none w.commons.unhold

/-! ## One step -/

variable {w w' : Scene κ}

/-- One step leaves a quiet scene behind and has one of the seven effects. -/
def Steps (w : Scene κ) (e : Event κ) (w' : Scene κ) : Prop := w'.Quiet ∧ Effect w e w'.inHand w'.commons

theorem isFree_iff : w.isFree = true ↔ w.stage = .free := by
  unfold isFree
  cases w.stage <;> simp

theorem inHand_of_free (h : w.stage = .free) : w.inHand = w.controller.session.map (·.card) := by
  simp [inHand, h]

theorem quiet_of_free (h : w.stage = .free) : w.Quiet := fun hf => by
  rw [isFree_iff.mpr h] at hf; cases hf

theorem quiet_of_none (h : w.controller.session = none) : w.Quiet := fun _ => h

/-- A step that keeps the card in hand, and with it all that the controller has to do with the shared
    things. -/
theorem Steps.of_kept {e : Event κ} (hq : w'.Quiet) (hh : w'.inHand = w.inHand)
    (hs : w'.commons = e.amid w.commons) (hc : w.clears e = none) (hg : w.givesUp e = none) :
    Steps w e w' := by
  refine ⟨hq, ?_⟩
  rw [hh, hs]
  exact .kept hc hg

/-- Nothing happens at all. -/
theorem Steps.of_same {e : Event κ} (hq : w.Quiet) (hs : e.amid w.commons = w.commons)
    (hc : w.clears e = none) (hg : w.givesUp e = none) : Steps w e w :=
  .of_kept hq rfl hs.symm hc hg

/-- An operation of the controller does nothing unless the controller is free. -/
theorem Steps.of_whenFree {e : Event κ} {next : Scene κ × Note κ} (hq : w.Quiet)
    (hs : e.amid w.commons = w.commons) (hc : w.clears e = none) (hg : w.stage ≠ .free → w.givesUp e = none)
    (h : w.stage = .free → Steps w e next.1) : Steps w e (w.whenFree next).1 := by
  unfold whenFree
  by_cases hf : w.isFree = true
  · rw [if_pos hf]
    exact h (isFree_iff.mp hf)
  · rw [if_neg hf]
    exact .of_same hq hs hc (hg fun hstage => hf (isFree_iff.mpr hstage))

/-- An operation of a free controller that changes nothing about the session's card. -/
theorem Steps.of_session {e : Event κ} {c : Controller κ} (hf : w.stage = .free)
    (hs : e.amid w.commons = w.commons) (hc : w.clears e = none) (hg : w.givesUp e = none)
    (h : c.session.map (·.card) = w.controller.session.map (·.card)) :
    Steps w e { w with controller := c } :=
  .of_kept (quiet_of_free hf) (by rw [inHand_of_free hf, inHand_of_free (by exact hf), h]) hs.symm hc hg

theorem steps_start (hf : w.stage = .free) (card : String) (left : Float) :
    Steps w (.start card left) (w.start card left).1 := by
  unfold start
  cases h : w.controller.start w.commons card left with
  | error fault => exact .of_same (quiet_of_free hf) rfl rfl rfl
  | ok result =>
    obtain ⟨c, s⟩ := result
    obtain ⟨hnone, _, hp, found, hb, rfl, rfl⟩ := Controller.start_eq_ok h
    have hhand : w.inHand = none := by rw [inHand_of_free hf, hnone]; rfl
    refine ⟨quiet_of_free hf, ?_⟩
    rw [inHand_of_free (by exact hf)]
    exact .takenUp hhand hp (by rw [hb]; rfl)

theorem steps_move (hf : w.stage = .free) (left : Float) : Steps w (.move left) (w.move left).1 := by
  unfold move
  cases h : w.controller.move left with
  | error fault => exact .of_same (quiet_of_free hf) rfl rfl rfl
  | ok result =>
    obtain ⟨c, x⟩ := result
    obtain ⟨session, hs, hs', _⟩ := Controller.move_eq_ok h
    exact .of_session hf rfl rfl rfl (by rw [hs, hs']; rfl)

/-- What the result of a drop tells the one who dropped the card. -/
def Note.ofDrop : Except Fault Bool → Note κ
  | .ok counts => .flag counts
  | .error fault => .refused fault

theorem dropOn_eq (w : Scene κ) (target : String) :
    w.dropOn target =
      ({ w with controller := (w.controller.dropOn w.commons target).1 },
        .ofDrop (w.controller.dropOn w.commons target).2) := by
  unfold dropOn
  obtain ⟨c, result⟩ := w.controller.dropOn w.commons target
  cases result <;> rfl

theorem steps_dropOn (hf : w.stage = .free) (container : String) :
    Steps w (.dropOn container) (w.dropOn container).1 := by
  obtain ⟨target, ht⟩ := Controller.dropOn_session (c := w.controller) (s := w.commons) container
  rw [dropOn_eq]
  refine .of_session hf rfl rfl rfl ?_
  rw [ht, Option.map_map]
  rfl

/-- A release leaves the controller alone or takes its session, whatever becomes of it afterwards. -/
theorem controller_of_release (w : Scene κ) :
    w.release.1.controller = w.controller ∨
      w.release.1.controller = { w.controller with phase := .idle, session := none } := by
  unfold release
  cases hs : w.controller.session with
  | none =>
    rw [Controller.release_none hs]
    exact Or.inl rfl
  | some session =>
    cases hp : w.commons.poisoned with
    | true =>
      rw [Controller.release_poisoned hs hp]
      exact Or.inr rfl
    | false =>
      rw [Controller.release_ok hs hp]
      cases ({ w.controller with phase := .idle, session := none } : Controller κ).judge
        w.commons.board session <;> exact Or.inr rfl

theorem steps_release (hf : w.stage = .free) : Steps w .release w.release.1 := by
  unfold release
  cases hs : w.controller.session with
  | none =>
    rw [Controller.release_none hs]
    exact .of_session hf rfl rfl rfl rfl
  | some session =>
    have hhand : w.inHand = some session.card := by rw [inHand_of_free hf, hs]; rfl
    cases hp : w.commons.poisoned with
    | true =>
      rw [Controller.release_poisoned hs hp]
      -- The session is gone although the release failed, and its unit with it.
      refine ⟨quiet_of_none rfl, ?_⟩
      rw [inHand_of_free (by exact hf)]
      exact .refused hhand hp
    | false =>
      rw [Controller.release_ok hs hp]
      -- Whether somebody is asked or not, the card stays in hand with its unit of activity.
      cases hj : ({ w.controller with phase := .idle, session := none } : Controller κ).judge
          w.commons.board session with
      | ok p =>
        have hcard : p.session.card = session.card := by rw [Controller.judge_session hj]
        exact .of_kept (quiet_of_none rfl) (by rw [hhand, ← hcard]; rfl) rfl rfl rfl
      | error ending => exact .of_kept (quiet_of_none rfl) (by rw [hhand]; rfl) rfl rfl rfl

theorem steps_settle (hq : w.Quiet) : Steps w .settle w.settle.1 := by
  unfold settle
  cases hst : w.stage with
  | ending session ending =>
    have hnone : w.controller.session = none := hq (by simp [isFree, hst])
    refine ⟨quiet_of_free rfl, ?_⟩
    rw [inHand_of_free rfl, hnone]
    exact .settled (by simp [inHand, hst]) (by simp [clears, hst])
  | free => exact .of_same hq rfl (by simp [clears, hst]) rfl
  | calling p gate => exact .of_same hq rfl (by simp [clears, hst]) rfl
  | waiting p gate waited => exact .of_same hq rfl (by simp [clears, hst]) rfl
  | gone => exact .of_same hq rfl (by simp [clears, hst]) rfl

theorem steps_callbackReturns (hq : w.Quiet) : Steps w .callbackReturns w.callbackReturns := by
  unfold callbackReturns
  cases hst : w.stage with
  | calling p gate =>
    have hnone : w.controller.session = none := hq (by simp [isFree, hst])
    exact .of_kept (quiet_of_none hnone) (by simp [inHand, hst]) rfl rfl rfl
  | free => exact .of_same hq rfl rfl rfl
  | ending session ending => exact .of_same hq rfl rfl rfl
  | waiting p gate waited => exact .of_same hq rfl rfl rfl
  | gone => exact .of_same hq rfl rfl rfl

theorem steps_poll (hq : w.Quiet) : Steps w .poll w.poll.1 := by
  unfold poll
  cases hst : w.stage with
  | waiting p gate waited =>
    have hnone : w.controller.session = none := hq (by simp [isFree, hst])
    have hclears : w.clears .poll =
        if ((w.gates.getD gate Gate.fresh).verdict w.controller.limit waited).isSome then
          some p.session.card else none := by simp only [clears, hst]
    dsimp only
    cases hv : (w.gates.getD gate Gate.fresh).verdict w.controller.limit waited with
    | none => exact .of_same hq rfl (by rw [hclears, hv]; rfl) rfl
    | some confirmation =>
      refine ⟨quiet_of_free rfl, ?_⟩
      rw [inHand_of_free rfl]
      show Effect w .poll (w.controller.session.map _) (w.commons.letGo p.session.card).1
      rw [hnone]
      exact .concluded (by simp [inHand, hst]) (by rw [hclears, hv]; rfl)
  | free => exact .of_same hq rfl (by simp [clears, hst]) rfl
  | ending session ending => exact .of_same hq rfl (by simp [clears, hst]) rfl
  | calling p gate => exact .of_same hq rfl (by simp [clears, hst]) rfl
  | gone => exact .of_same hq rfl (by simp [clears, hst]) rfl

theorem steps_cancel (hq : w.Quiet) : Steps w .cancel w.cancel := by
  unfold cancel
  cases hst : w.stage with
  | waiting p gate waited =>
    have hnone : w.controller.session = none := hq (by simp [isFree, hst])
    have hhand : w.inHand = some p.session.card := by simp [inHand, hst]
    refine ⟨quiet_of_free rfl, ?_⟩
    rw [inHand_of_free rfl]
    show Effect w .cancel (w.controller.session.map _) w.commons.unhold
    rw [hnone]
    exact .cancelled hhand (by simp [givesUp, hst])
  | free => exact .of_same hq rfl rfl (by simp [givesUp, hst])
  | ending session ending => exact .of_same hq rfl rfl (by simp [givesUp, hst])
  | calling p gate => exact .of_same hq rfl rfl (by simp [givesUp, hst])
  | gone => exact .of_same hq rfl rfl (by simp [givesUp, hst])

theorem steps_dismiss (hf : w.stage = .free) : Steps w .dismiss w.dismiss := by
  unfold dismiss Controller.dismiss
  cases hs : w.controller.session with
  | none =>
    refine .of_kept (quiet_of_none hs) ?_ rfl rfl (by simp [givesUp, hf, hs])
    rw [inHand_of_free hf, hs]
    rfl
  | some session =>
    have hhand : w.inHand = some session.card := by rw [inHand_of_free hf, hs]; rfl
    exact ⟨quiet_of_none rfl, .dismissed hhand (by simp [givesUp, hf, hs])⟩

theorem steps_pass (hq : w.Quiet) (ms : Nat) : Steps w (.pass ms) (w.pass ms) := by
  unfold pass
  cases hst : w.stage with
  | waiting p gate waited =>
    have hnone : w.controller.session = none := hq (by simp [isFree, hst])
    exact .of_kept (quiet_of_none hnone) (by simp [inHand, hst]) rfl rfl rfl
  | free => exact .of_same hq rfl rfl rfl
  | ending session ending => exact .of_same hq rfl rfl rfl
  | calling p gate => exact .of_same hq rfl rfl rfl
  | gone => exact .of_same hq rfl rfl rfl

/-- **Every step** of a quiet scene leaves a quiet scene behind and has one of the seven effects. -/
theorem step_effect (hq : w.Quiet) (e : Event κ) : Steps w e (w.step e).1 := by
  cases e with
  | registerZone container callback =>
    exact .of_whenFree hq rfl rfl (fun _ => rfl) fun hf => .of_session hf rfl rfl rfl rfl
  | registerDraggable card allowed =>
    exact .of_whenFree hq rfl rfl (fun _ => rfl) fun hf => .of_session hf rfl rfl rfl rfl
  | setLimit limit =>
    exact .of_whenFree hq rfl rfl (fun _ => rfl) fun hf => .of_session hf rfl rfl rfl rfl
  | setViewport contentWidth offset =>
    exact .of_whenFree hq rfl rfl (fun _ => rfl) fun hf => .of_session hf rfl rfl rfl rfl
  | start card left =>
    exact .of_whenFree hq rfl rfl (fun _ => rfl) fun hf => steps_start hf card left
  | move left => exact .of_whenFree hq rfl rfl (fun _ => rfl) fun hf => steps_move hf left
  | dropOn container =>
    exact .of_whenFree hq rfl rfl (fun _ => rfl) fun hf => steps_dropOn hf container
  | release => exact .of_whenFree hq rfl rfl (fun _ => rfl) steps_release
  | dismiss =>
    refine .of_whenFree hq rfl rfl (fun hf => ?_) steps_dismiss
    unfold givesUp
    cases hst : w.stage with
    | free => exact absurd hst hf
    | ending session ending => rfl
    | calling p gate => rfl
    | waiting p gate waited => rfl
    | gone => rfl
  | settle => exact steps_settle hq
  | callbackReturns => exact steps_callbackReturns hq
  | poll => exact steps_poll hq
  | cancel => exact steps_cancel hq
  | pass ms => exact steps_pass hq ms
  | answer gate accepted => exact .of_kept hq rfl rfl rfl rfl
  | abandon gate => exact .of_kept hq rfl rfl rfl rfl
  | edit e => exact .of_kept hq rfl rfl rfl rfl
  | poison => exact .of_kept hq rfl rfl rfl rfl
  | heal => exact .of_kept hq rfl rfl rfl rfl
  | increment => exact .of_kept hq rfl rfl rfl rfl
  | decrement => exact .of_kept hq rfl rfl rfl rfl

/-! ## A whole run -/

@[simp] theorem run_nil (w : Scene κ) : w.run [] = w := rfl

@[simp] theorem run_cons (w : Scene κ) (e : Event κ) (es : List (Event κ)) :
    w.run (e :: es) = (w.step e).1.run es := rfl

theorem run_append (w : Scene κ) (es es' : List (Event κ)) : w.run (es ++ es') = (w.run es).run es' :=
  List.foldl_append

theorem quiet_new {c : Controller κ} {s : Commons} : (Scene.new c s).Quiet := quiet_of_free rfl

theorem quiet_step (hq : w.Quiet) (e : Event κ) : (w.step e).1.Quiet := (step_effect hq e).1

theorem quiet_run (hq : w.Quiet) (es : List (Event κ)) : (w.run es).Quiet := by
  induction es generalizing w with
  | nil => exact hq
  | cons e rest ih => exact ih (quiet_step hq e)

end Scene
end Kanban
