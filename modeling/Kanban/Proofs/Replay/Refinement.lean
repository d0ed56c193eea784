import Kanban.Proofs.Replay.Runner
import Kanban.Proofs.Replay.Sketch
import Kanban.Proofs.Scenario.Board
import Kanban.Proofs.Scenario.Check

/-!
# `Proofs.Replay.Refinement` — a replay comes to what its sketch says

A replay goes through a controller, a board that keeps ownership twice, marks, a count of interactions,
zones with callbacks, dialogs, gates and a refresher beside all that. What it comes to is on the paper of
somebody who has none of these.

## Contents
- `Shows`: a board beside its columns on paper.
- `Grasped`, `Held`: an open session beside the card that is dragged on paper.
- `Follows`: a replay beside its sketch, from `Follows.begin` on.
- `Alike`, `Follows.step`, `Follows.play`: one step beside one on paper, and all of them.
- `replay_eq_sketch`: the whole replay beside its refresher.
-/

namespace Kanban

variable {s : Scenario} {columns : List Container} {b b' : Board}

/-! ## A board on paper -/

/-- **A board beside its columns on paper.** It has all cards of the scenario. -/
structure Shows (s : Scenario) (columns : List Container) (b : Board) : Prop where
  consistent : b.Consistent
  containers : b.containers = columns
  ids : columns.map (·.id) = s.columnIds
  distinct : s.cardIds.Nodup
  cards : ∀ c ∈ s.cards, ∃ card, b.card? c.id = some card ∧ card.issue = c.issue ∧ card.width = c.width

namespace Shows

theorem columnIds_nodup (h : Shows s columns b) : s.columnIds.Nodup := by
  rw [← h.ids, ← h.containers]
  exact h.consistent.ids

theorem of_board (h : s.board = .ok b) : Shows s (Sketch.begin s).columns b := by
  obtain ⟨_, hcards, hb⟩ := Scenario.board_eq_ok.mp h
  refine ⟨Scenario.consistent_board h, ?_, ?_, hcards, fun c hc => ?_⟩
  · rw [hb]
    rfl
  · show (s.columns.map _).map _ = s.columns.map _
    rw [List.map_map]
    rfl
  · obtain ⟨column, hcolumn, hc⟩ := List.mem_flatMap.mp hc
    exact ⟨c.card column.id, Scenario.card?_board h hcolumn hc, rfl, rfl⟩

/-- Every column of the scenario is a container of the board. -/
theorem container? (h : Shows s columns b) {x : String} (hx : x ∈ s.columnIds) :
    ∃ k ∈ columns, k.id = x ∧ b.container? x = some k := by
  have hsome : (b.container? x).isSome = true := by
    rw [Board.container?_isSome, h.containers, h.ids]
    exact hx
  obtain ⟨k, hk⟩ := Option.isSome_iff_exists.mp hsome
  exact ⟨k, h.containers ▸ Board.container?_mem hk, Board.container?_id hk, hk⟩

/-- Two columns with one identifier are one. -/
theorem eq_of_id (h : Shows s columns b) {k k' : Container} (hk : k ∈ columns) (hk' : k' ∈ columns)
    (hid : k.id = k'.id) : k = k' :=
  List.inj_on_of_nodup_map (h.ids ▸ h.columnIds_nodup) hk hk' hid

/-- Whether a column is open is on paper. -/
theorem isOpen (h : Shows s columns b) {x : String} {k : Container} (hk : b.container? x = some k) :
    (columns.any fun c => c.id = x && c.droppable) = k.droppable := by
  have hmem : k ∈ columns := h.containers ▸ Board.container?_mem hk
  have hid := Board.container?_id hk
  rw [Bool.eq_iff_iff, List.any_eq_true]
  constructor
  · rintro ⟨c, hc, hopen⟩
    rw [Bool.and_eq_true, decide_eq_true_eq] at hopen
    rw [h.eq_of_id hmem hc (hid.trans hopen.1.symm)]
    exact hopen.2
  · intro hopen
    exact ⟨k, hmem, by simp [hid, hopen]⟩

/-- The column that lists a card is the one that the card names. -/
theorem home (h : Shows s columns b) {x : String} {c : Card} (hc : b.card? x = some c) :
    (columns.find? fun k => k.cards.contains x).map (·.id) = some c.container := by
  obtain ⟨k, hk, _, hx⟩ := h.consistent.exists_container hc
  rw [h.containers] at hk
  cases hf : columns.find? fun k => k.cards.contains x with
  | none =>
    rw [List.find?_eq_none] at hf
    exact absurd (by simpa using hx) (hf k hk)
  | some k' =>
    have hmem : k' ∈ b.containers := h.containers ▸ List.mem_of_find?_eq_some hf
    have hx' : x ∈ k'.cards := by simpa using List.find?_some hf
    exact congrArg some (h.consistent.container_of_mem hc hmem hx')

/-! ### What operations do to it -/

/-- Marks are not on paper. -/
theorem setDragging (h : Shows s columns b) (card : String) (d : Bool) :
    Shows s columns (b.setDragging card d) := by
  refine ⟨h.consistent.setDragging card d, h.containers, h.ids, h.distinct, fun c hc => ?_⟩
  obtain ⟨found, hfound, hissue, hwidth⟩ := h.cards c hc
  obtain ⟨found', hfound', rfl | rfl⟩ := (Board.changes_setDragging b card d).after hfound
  · exact ⟨found', hfound', hissue, hwidth⟩
  · exact ⟨_, hfound', hissue, hwidth⟩

theorem setDroppable (h : Shows s columns b) {column : String} {droppable : Bool}
    (hb : b.setDroppable column droppable = .ok b') :
    Shows s (columns.map fun c => if c.id = column then { c with droppable } else c) b' := by
  have hconsistent := h.consistent.setDroppable hb
  obtain ⟨_, rfl⟩ := Board.setDroppable_eq_ok.mp hb
  refine ⟨hconsistent, ?_, ?_, h.distinct, h.cards⟩
  · show Board.updateFirst column _ b.containers = _
    rw [Board.updateFirst_eq_map h.consistent.ids, h.containers]
  · rw [← h.ids, List.map_map]
    refine List.map_congr_left fun k _ => ?_
    show (if k.id = column then { k with droppable } else k).id = k.id
    split <;> rfl

/-- A transfer on the board is a carriage on paper. -/
theorem transferred (h : Shows s columns b) {card target : String} {c : Card}
    (hc : b.card? card = some c) (hne : c.container ≠ target) (ht : target ∈ s.columnIds) :
    Shows s (columns.map fun k =>
      if k.id = target then { k with cards := k.cards ++ [card] }
      else { k with cards := k.cards.filter (· ≠ card) }) (b.transferred card c.container target) := by
  have hmem : target ∈ b.containers.map (·.id) := by rw [h.containers, h.ids]; exact ht
  refine ⟨h.consistent.transferred hc hne hmem, ?_, ?_, h.distinct, fun c' hc' => ?_⟩
  · rw [h.consistent.transferred_containers hne, h.containers]
    refine List.map_congr_left fun k hk => ?_
    by_cases htarget : k.id = target
    · rw [if_pos htarget, if_pos htarget]
    · rw [if_neg htarget, if_neg htarget]
      by_cases hsource : k.id = c.container
      · rw [if_pos hsource]
      · -- The card is in no other list, so there is nothing to take out.
        have hnot : ∀ x ∈ k.cards, decide (x ≠ card) = true := by
          intro x hx
          rw [decide_eq_true_eq]
          rintro rfl
          exact hsource (h.consistent.container_of_mem hc (h.containers ▸ hk) hx)
        rw [if_neg hsource, List.filter_eq_self.mpr hnot]
  · rw [← h.ids, List.map_map]
    refine List.map_congr_left fun k _ => ?_
    show (if k.id = target then { k with cards := k.cards ++ [card] }
      else { k with cards := k.cards.filter (· ≠ card) }).id = k.id
    split <;> rfl
  · obtain ⟨found, hfound, hissue, hwidth⟩ := h.cards c' hc'
    obtain ⟨found', hfound', rfl | rfl⟩ := (Board.changes_transferred b card c.container target).after hfound
    · exact ⟨found', hfound', hissue, hwidth⟩
    · exact ⟨_, hfound', hissue, hwidth⟩

end Shows

/-! ## A session on paper -/

/-- **An open session beside the card that is dragged on paper.** The card is where it came from, and a
    target is another column with a zone. -/
structure Grasped (s : Scenario) (b : Board) (g : Sketch.Grip) (session : Session) : Prop where
  planned : g.card ∈ s.cards
  card : session.card = g.card.id
  issue : session.issue = g.card.issue
  origin : g.origin = some session.origin
  width : session.helper.width = g.card.width
  contentWidth : session.contentWidth = s.viewport.contentWidth
  target : session.target = g.target
  owned : b.owns session.origin session.card = true
  accepted : ∀ t, g.target = some t → t ≠ session.origin ∧ s.accepts t = true

/-- An open session is on paper, and none is if there is none. -/
def Held (s : Scenario) (b : Board) : Option Sketch.Grip → Option Session → Prop
  | none, none => True
  | some g, some session => Grasped s b g session
  | _, _ => False

theorem Held.of_none {g : Option Sketch.Grip} {session : Option Session} (h : Held s b g session)
    (hg : g = none) : session = none := by
  subst hg
  cases session with
  | none => rfl
  | some session => cases h

theorem Held.of_some {o : Option Sketch.Grip} {g : Sketch.Grip} {session : Option Session}
    (h : Held s b o session) (hg : o = some g) : ∃ open', session = some open' ∧ Grasped s b g open' := by
  subst hg
  cases session with
  | none => cases h
  | some session => exact ⟨session, rfl, h⟩

/-- What only looks at ownership survives whatever leaves ownership alone. -/
theorem Held.of_owns {g : Option Sketch.Grip} {session : Option Session} (h : Held s b g session)
    (hb : ∀ k x, b'.owns k x = b.owns k x) : Held s b' g session := by
  cases g with
  | none => rw [h.of_none rfl]; trivial
  | some g =>
    obtain ⟨session, rfl, hg⟩ := h.of_some rfl
    exact { hg with owned := (hb _ _).trans hg.owned }

/-- The card of a session is on the board, where it came from. -/
theorem Grasped.exists_card {g : Sketch.Grip} {session : Session} (h : Grasped s b g session) :
    ∃ c, b.card? session.card = some c ∧ c.container = session.origin := Board.owns_iff.mp h.owned

/-- The card of a session can go anywhere but where it came from. -/
theorem Grasped.canAccept {g : Sketch.Grip} {session : Session} (h : Grasped s b g session)
    (column : String) : b.canAccept session.card column = decide (session.origin ≠ column) := by
  obtain ⟨c, hc, hcontainer⟩ := h.exists_card
  rw [Board.canAccept, hc, ← hcontainer]

/-! ## A replay beside its sketch -/

/-- **A replay beside its sketch,** while a number of interactions are in progress elsewhere. -/
structure Follows (s : Scenario) (n : Nat) (k : Sketch) (r : Replay) : Prop where
  clean : r.commons.poisoned = false
  board : Shows s k.columns r.commons.board
  zones : r.controller.zones = (Replay.controllerOf s).zones
  draggables : r.controller.draggables = (Replay.controllerOf s).draggables
  limit : r.controller.limit = s.limit
  viewport : r.controller.viewport =
    ⟨⟨s.viewport.left, s.viewport.width⟩, s.viewport.contentWidth, k.offset⟩
  session : Held s r.commons.board k.grip r.controller.session
  count : r.commons.activity.count = n + if k.grip.isSome then 1 else 0
  starts : r.starts = k.starts
  requests : r.attendant.requests = k.requests

namespace Follows

variable {n : Nat} {k : Sketch} {r : Replay}

theorem begin (h : s.board = .ok b) (n : Nat) : Follows s n (Sketch.begin s) (Replay.begin s b n) := by
  refine ⟨rfl, Shows.of_board h, rfl, rfl, ?_, ?_, ?_, rfl, rfl, rfl⟩
  · show (Replay.controllerOf s).limit = s.limit
    rw [Replay.controllerOf_eq]
  · show (Replay.controllerOf s).viewport = _
    rw [Replay.controllerOf_eq]
    rfl
  · show Held s b none (Replay.controllerOf s).session
    rw [Replay.controllerOf_eq]
    trivial

/-- Much of a replay is not on paper: what the controller shows of itself, what has been said, the clock,
    and most of the attendant. -/
theorem of_same {r' : Replay} (h : Follows s n k r) (hs : r'.commons = r.commons)
    (hc : { r'.controller with phase := r.controller.phase } = r.controller) (hstarts : r'.starts = r.starts)
    (hrequests : r'.attendant.requests = r.attendant.requests) : Follows s n k r' := by
  refine ⟨hs ▸ h.clean, hs ▸ h.board, ?_, ?_, ?_, ?_, ?_, hs ▸ h.count, hstarts.trans h.starts,
    hrequests.trans h.requests⟩
  · exact (congrArg Controller.zones hc).trans h.zones
  · exact (congrArg Controller.draggables hc).trans h.draggables
  · exact (congrArg Controller.limit hc).trans h.limit
  · exact (congrArg Controller.viewport hc).trans h.viewport
  · have hsession := congrArg Controller.session hc
    rw [hs, show r'.controller.session = r.controller.session from hsession]
    exact h.session

/-! ## One step -/

theorem start (h : Follows s n k r) (card : String) (left : Float) :
    (r.start card left).2 = (k.start s card).2 ∧
      Follows s n (k.start s card).1 (r.start card left).1 := by
  unfold Replay.start Sketch.start
  cases hg : k.grip with
  | some g =>
    obtain ⟨session, hs, hgrasped⟩ := h.session.of_some hg
    rw [Controller.start_of_session hs, hgrasped.card]
    exact ⟨rfl, h⟩
  | none =>
    have hs := h.session.of_none hg
    have hcontains : r.controller.draggables.contains card = (s.draggable? card).isSome := by
      rw [h.draggables]
      exact Scenario.contains_eq_draggable? h.board.distinct card
    cases hd : s.draggable? card with
    | none =>
      rw [hd] at hcontains
      rw [Controller.start_of_forbidden hs hcontains]
      exact ⟨rfl, h⟩
    | some plan =>
      rw [hd] at hcontains
      obtain ⟨hplan, rfl, _⟩ := Scenario.draggable?_eq_some hd
      obtain ⟨found, hfound, hissue, hwidth⟩ := h.board.cards plan hplan
      rw [Controller.start_of_card hs hcontains h.clean hfound]
      -- The paper now has a card, the board a mark, and the count one unit more.
      refine ⟨rfl, ?_⟩
      refine ⟨h.clean, h.board.setDragging plan.id true, h.zones, h.draggables, h.limit, h.viewport,
        ?_, ?_, ?_, h.requests⟩
      · show Grasped s (r.commons.board.setDragging plan.id true) ⟨plan, k.home plan.id, none⟩
          (r.controller.openSession found plan.id left)
        refine ⟨hplan, rfl, hissue, h.board.home hfound, hwidth, ?_, rfl, ?_, fun t ht => (by cases ht)⟩
        · show r.controller.viewport.contentWidth = s.viewport.contentWidth
          rw [h.viewport]
        · rw [Board.owns_setDragging]
          exact Board.owns_iff.mpr ⟨found, hfound, rfl⟩
      · have hcount := h.count
        rw [hg] at hcount
        show r.commons.activity.count + 1 = n + 1
        rw [hcount]
        rfl
      · show r.starts ++ [found.issue] = k.starts ++ [plan.issue]
        rw [h.starts, hissue]

/-- A viewport scrolls unless it is there already. -/
theorem scrolled_eq (v : Viewport) (x : Float) :
    (if x != v.offset then { v with offset := x } else v) =
      { v with offset := if x == v.offset then v.offset else x } := by
  unfold bne
  cases x == v.offset <;> rfl

theorem move (h : Follows s n k r) (left : Float) :
    (r.move left).2 = (k.move s left).2 ∧ Follows s n (k.move s left).1 (r.move left).1 := by
  unfold Replay.move Controller.move Sketch.move
  cases hg : k.grip with
  | none =>
    rw [h.session.of_none hg]
    exact ⟨rfl, h⟩
  | some g =>
    obtain ⟨session, hs, hgrasped⟩ := h.session.of_some hg
    rw [hs]
    dsimp only
    rw [h.viewport, hgrasped.width, hgrasped.contentWidth]
    refine ⟨rfl, ?_⟩
    refine ⟨h.clean, h.board, h.zones, h.draggables, h.limit, ?_, ?_, ?_, h.starts, h.requests⟩
    · exact scrolled_eq ⟨⟨s.viewport.left, s.viewport.width⟩, s.viewport.contentWidth, k.offset⟩ _
    · exact { hgrasped with width := rfl, contentWidth := rfl }
    · rw [← hg]
      exact h.count

/-- A new target is on paper, too, if it is allowed to be there. -/
theorem aim {g : Sketch.Grip} {session : Session} {target : Option String} (h : Follows s n k r)
    (hg : k.grip = some g) (hgrasped : Grasped s r.commons.board g session)
    (ht : ∀ t, target = some t → t ≠ session.origin ∧ s.accepts t = true) :
    Follows s n { k with grip := some { g with target } }
      { r with controller := r.controller.aimed session target } := by
  refine ⟨h.clean, h.board, h.zones, h.draggables, h.limit, h.viewport, ?_, ?_, h.starts, h.requests⟩
  · exact { hgrasped with target := rfl, accepted := ht }
  · have hcount := h.count
    rw [hg] at hcount
    exact hcount

theorem dropOn (h : Follows s n k r) (column : String) :
    (r.dropOn column).2 = (k.dropOn s column).2 ∧
      Follows s n (k.dropOn s column).1 (r.dropOn column).1 := by
  unfold Replay.dropOn Sketch.dropOn
  cases hg : k.grip with
  | none =>
    rw [Controller.dropOn_none (h.session.of_none hg)]
    exact ⟨rfl, h⟩
  | some g =>
    obtain ⟨session, hs, hgrasped⟩ := h.session.of_some hg
    have hzone : r.controller.zones.isRegistered column = s.accepts column := by
      rw [h.zones]
      exact Scenario.isRegistered_eq_accepts h.board.columnIds_nodup column
    cases ha : s.accepts column with
    | false =>
      have hcounts : k.counts s g column = false := by simp [Sketch.counts, ha]
      rw [Controller.dropOn_unregistered hs (hzone.trans ha)]
      dsimp only
      rw [hcounts]
      exact ⟨rfl, h.aim hg hgrasped fun t ht => (by cases ht)⟩
    | true =>
      -- A column that accepts drops is on the board, so the drop is looked at and cannot be refused.
      obtain ⟨kc, hmem, hid, hk⟩ := h.board.container? (Scenario.mem_columnIds_of_accepts ha)
      rw [Controller.dropOn_registered hs (hzone.trans ha) h.clean hk]
      have hcounts : (kc.droppable && decide (column ≠ session.origin) &&
          r.commons.board.canAccept session.card column) = k.counts s g column := by
        rw [hgrasped.canAccept, Sketch.counts, ha, Sketch.isOpen, h.board.isOpen hk, hgrasped.origin]
        cases kc.droppable <;> simp [eq_comm]
      dsimp only
      rw [hcounts]
      refine ⟨rfl, h.aim hg hgrasped fun t ht => ?_⟩
      cases hc : k.counts s g column with
      | false => rw [hc] at ht; cases ht
      | true =>
        rw [hc] at ht
        cases ht
        refine ⟨?_, ha⟩
        simp only [Sketch.counts, Bool.and_eq_true, decide_eq_true_eq, hgrasped.origin] at hc
        exact fun heq => hc.2 (congrArg some heq.symm)

theorem setDroppable (h : Follows s n k r) (column : String) (droppable : Bool) :
    (r.setDroppable column droppable).2 = (k.setDroppable column droppable).2 ∧
      Follows s n (k.setDroppable column droppable).1 (r.setDroppable column droppable).1 := by
  have hany : (k.columns.any (·.id = column)) = (r.commons.board.container? column).isSome := by
    rw [← h.board.containers, Board.container?, Bool.eq_iff_iff, List.find?_isSome, List.any_eq_true]
  unfold Replay.setDroppable Sketch.setDroppable
  rw [Commons.lock_of_clean h.clean, hany]
  cases hk : r.commons.board.container? column with
  | none =>
    simp only [Except.bind, Board.setDroppable_of_none hk]
    exact ⟨rfl, h⟩
  | some kc =>
    obtain ⟨b', hb⟩ : ∃ b', r.commons.board.setDroppable column droppable = .ok b' :=
      ⟨_, Board.setDroppable_eq_ok.mpr ⟨Option.isSome_iff_exists.mpr ⟨kc, hk⟩, rfl⟩⟩
    simp only [Except.bind, hb]
    refine ⟨rfl, ?_⟩
    refine ⟨h.clean, h.board.setDroppable hb, h.zones, h.draggables, h.limit, h.viewport, ?_, h.count,
      h.starts, h.requests⟩
    obtain ⟨_, rfl⟩ := Board.setDroppable_eq_ok.mp hb
    exact h.session.of_owns fun _ _ => rfl

/-! ### Releasing -/

/-- A session that is handed over leaves its unit behind, as if somebody else had it. -/
theorem handedOver {g : Sketch.Grip} (h : Follows s n k r) (hg : k.grip = some g) (decision : Decision) :
    Follows s (n + 1) { k with grip := none } (r.prepare decision).handedOver := by
  refine ⟨h.clean, h.board, h.zones, h.draggables, h.limit, h.viewport, trivial, ?_, h.starts, h.requests⟩
  have hcount := h.count
  rw [hg] at hcount
  exact hcount

/-- A dialog that is told an issue is on paper. -/
theorem asked (h : Follows s n k r) (issue : Payload) :
    Follows s n { k with requests := k.requests ++ [issue] } (r.asked issue) :=
  ⟨h.clean, h.board, h.zones, h.draggables, h.limit, h.viewport, h.session, h.count, h.starts,
    congrArg (· ++ [issue]) h.requests⟩

/-- Nor does it matter on paper that a wait begins. -/
theorem await (h : Follows s n k r) : Follows s n k { r with controller := r.controller.await } :=
  h.of_same rfl rfl rfl rfl

/-- A move that is committed is a carriage on paper. -/
theorem commit {card target : String} {c : Card} (h : Follows s n k r) (hg : k.grip = none)
    (hd : r.attendant.dragged = some card) (hc : r.commons.board.card? card = some c)
    (hne : c.container ≠ target) (ht : target ∈ s.columnIds) :
    (r.commit target).2 = true ∧ Follows s n (k.carry card target) (r.commit target).1 := by
  have hids : r.commons.board.containers.map (·.id) = s.columnIds := by
    rw [h.board.containers, h.board.ids]
  have htransfer := Board.transfer_other hc hne (Board.container?_isSome.mpr (hids ▸ ht))
    (Board.container?_isSome.mpr (h.board.consistent.home card c hc))
  rw [Replay.commit_of_transfer hd h.clean htransfer]
  refine ⟨rfl, ?_⟩
  refine ⟨h.clean, h.board.transferred hc hne ht, h.zones, h.draggables, h.limit, h.viewport, ?_, h.count,
    h.starts, h.requests⟩
  show Held s _ k.grip r.controller.session
  rw [h.session.of_none hg, hg]
  trivial

/-- Letting go of a card that has been handed over gives its unit back. -/
theorem letGo (h : Follows s (n + 1) k r) (hg : k.grip = none) (card : String) :
    Follows s n k { r with commons := (r.commons.mark card false).unhold } := by
  refine ⟨h.clean, h.board.setDragging card false, h.zones, h.draggables, h.limit, h.viewport, ?_, ?_,
    h.starts, h.requests⟩
  · exact h.session.of_owns fun _ _ => Board.owns_setDragging ..
  · have hcount := h.count
    show r.commons.activity.count - 1 = _
    rw [hcount, hg]
    rfl

/-- The end of a wait, as far as it is on paper. -/
theorem conclude (h : Follows s (n + 1) k r) (hg : k.grip = none) (p : Pending String) (c : Confirmation)
    (waited : Nat) :
    (r.conclude p c waited).2 =
        .released (if c.isAccepted then .committed p.target else .declined p.target c) ∧
      Follows s n k (r.conclude p c waited).1 := by
  obtain ⟨lines, hconclude⟩ := Replay.conclude_of_clean h.clean p c waited
  rw [hconclude]
  exact ⟨rfl, (h.letGo hg p.session.card).of_same rfl rfl rfl rfl⟩

end Follows

/-- A step of a replay beside one on paper: both never end, or they turn out alike. -/
def Alike {α : Type} (s : Scenario) (n : Nat) (o : Option (Sketch × α)) (o' : Option (Replay × α)) : Prop :=
  match o, o' with
  | none, none => True
  | some (k, result), some (r, result') => result' = result ∧ Follows s n k r
  | _, _ => False

theorem Alike.cases {α : Type} {n : Nat} {o : Option (Sketch × α)} {o' : Option (Replay × α)}
    (h : Alike s n o o') : (o = none ∧ o' = none) ∨
      ∃ k r result, o = some (k, result) ∧ o' = some (r, result) ∧ Follows s n k r := by
  cases o with
  | none =>
    cases o' with
    | none => exact Or.inl ⟨rfl, rfl⟩
    | some q => cases h
  | some q =>
    cases o' with
    | none => cases h
    | some q' =>
      obtain ⟨hresult, hfollows⟩ := h
      exact Or.inr ⟨q.1, q'.1, q.2, rfl, congrArg (fun x => some (q'.1, x)) hresult, hfollows⟩

namespace Follows

variable {n : Nat} {k : Sketch} {r : Replay}

/-- **A release over a target** runs the dialog, which answers, moves the card first, or is left open. -/
theorem releaseOn {g : Sketch.Grip} {session : Session} {target : String} {c : Card} (h : Follows s n k r)
    (hs : r.controller.session = some session) (hgrasped : Grasped s r.commons.board g session)
    (hjudge : r.handedOver.controller.judge r.commons.board session = .ok ⟨session, target, target⟩)
    (hover : ∀ decision, Follows s (n + 1) { k with grip := none } (r.prepare decision).handedOver)
    (hc : r.commons.board.card? session.card = some c) (hne : c.container ≠ target)
    (ht : target ∈ s.columnIds) (decision : Decision) :
    Alike s n (k.confirm s g target decision) (r.step (.release decision)) := by
  -- The question as a name of its own, so that it stands still while the replay is rewritten around it.
  generalize hp : (⟨session, target, target⟩ : Pending String) = p at hjudge
  have hstep : r.step (.release decision) =
      (let asked := ((r.prepare decision).handedOver.say [Notice.asking p]).runDialog p
       { asked.1 with controller := asked.1.controller.await }.await p asked.2) := by
    rw [Replay.step, Replay.attempt, Replay.release_calling hs h.clean hjudge]
  have hsaid : Follows s (n + 1) { k with grip := none }
      ((r.prepare decision).handedOver.say [Notice.asking p]) := (hover decision).of_same rfl rfl rfl rfl
  have hdragged : ((r.prepare decision).handedOver.say [Notice.asking p]).attendant.dragged =
      some session.card := by
    show r.controller.session.map (·.card) = some session.card
    rw [hs]
    rfl
  have hdecision : ((r.prepare decision).handedOver.say [Notice.asking p]).attendant.decision = decision := rfl
  have hboard : ((r.prepare decision).handedOver.say [Notice.asking p]).commons.board.card? session.card =
      some c := hc
  rw [hstep]
  generalize (r.prepare decision).handedOver.say [Notice.asking p] = q at *
  have hasked : Follows s (n + 1) (k.ask g) (q.asked session.issue) := by
    rw [Sketch.ask, ← hgrasped.issue]
    exact hsaid.asked session.issue
  subst hp
  cases decision with
  | accept =>
    -- The card has moved by the time the answer is there, so the wait is over at once.
    obtain ⟨htrue, hcarried⟩ := hasked.commit rfl hdragged hboard hne ht
    rw [Replay.runDialog_accept hdecision]
    dsimp only
    rw [htrue, Replay.await_of_reply (by rfl)]
    rw [hgrasped.card] at hcarried
    exact hcarried.await.conclude rfl _ _ _
  | reject =>
    rw [Replay.runDialog_reject hdecision]
    dsimp only
    rw [Replay.await_of_reply (by rfl)]
    exact hasked.await.conclude rfl _ _ _
  | never =>
    rw [Replay.runDialog_never hdecision]
    dsimp only
    have hparked : Follows s (n + 1) (k.ask g) (q.asked session.issue).park := hasked.of_same rfl rfl rfl rfl
    have hwaiting := hparked.await
    -- Nobody answers: the limit decides, if there is one.
    unfold Sketch.confirm
    by_cases hzero : s.confirmationTimeout = some 0
    · have hlimit := hwaiting.limit.trans (Scenario.limit_eq_none.mpr hzero)
      rw [if_pos hzero, Replay.await_unlimited hlimit]
      trivial
    · obtain ⟨l, hl⟩ := Option.ne_none_iff_exists'.mp (mt Scenario.limit_eq_none.mp hzero)
      have hlimit := hwaiting.limit.trans hl
      rw [if_neg hzero, Replay.await_of_limit hlimit]
      exact hwaiting.conclude rfl _ _ _

theorem release (h : Follows s n k r) (decision : Decision) :
    Alike s n (k.release s decision) (r.step (.release decision)) := by
  unfold Sketch.release
  cases hg : k.grip with
  | none =>
    have hstep : r.step (.release decision) =
        some ((r.prepare decision).finish, .refused .noActiveDrag) := by
      rw [Replay.step, Replay.attempt, Replay.release_none (h.session.of_none hg)]
    rw [hstep]
    exact ⟨rfl, h.of_same rfl rfl rfl rfl⟩
  | some g =>
    obtain ⟨session, hs, hgrasped⟩ := h.session.of_some hg
    have hover := h.handedOver hg
    dsimp only
    cases ht : g.target with
    | none =>
      have hjudge : r.handedOver.controller.judge r.commons.board session = .error .nowhere :=
        Controller.judge_nowhere (hgrasped.target.trans ht) r.commons.board
      have hstep : r.step (.release decision) =
          some ((r.prepare decision).handedOver.settle session .nowhere) := by
        rw [Replay.step, Replay.attempt, Replay.release_ending hs h.clean hjudge]
      rw [hstep, Replay.settle_of_clean (hover decision).clean]
      exact ⟨rfl, ((hover decision).letGo rfl session.card).of_same rfl rfl rfl rfl⟩
    | some target =>
      -- The card is where it came from and the target is elsewhere, so a release never ends at home.
      obtain ⟨hne, haccepts⟩ := hgrasped.accepted target ht
      obtain ⟨c, hc, hcontainer⟩ := hgrasped.exists_card
      have hjudge : r.handedOver.controller.judge r.commons.board session = .ok ⟨session, target, target⟩ := by
        refine Controller.judge_asks (hgrasped.target.trans ht) hne ?_ ?_
        · rw [hc, Option.map_some, hcontainer]
          exact fun heq => hne (Option.some.inj heq).symm
        · show r.controller.zones.callback? target = some target
          rw [h.zones, Scenario.callback?_eq_accepts h.board.columnIds_nodup, haccepts, if_pos rfl]
      exact h.releaseOn hs hgrasped hjudge hover hc (hcontainer ▸ Ne.symm hne)
        (Scenario.mem_columnIds_of_accepts haccepts) decision

/-- **Every step** turns out as on paper, or it never ends there either. -/
theorem step (h : Follows s n k r) (x : ScenarioStep) : Alike s n (k.step s x) (r.step x) := by
  cases x with
  | start card left => exact h.start card left
  | move left => exact h.move left
  | dropOn column => exact h.dropOn column
  | release decision => exact h.release decision
  | setDroppable column droppable => exact h.setDroppable column droppable

/-- **All steps** turn out as on paper, or they never end there either. -/
theorem play (h : Follows s n k r) (i : Nat) (steps : List ScenarioStep) :
    Alike s n (k.play s steps) (r.play i steps) := by
  induction steps generalizing k r i with
  | nil => exact ⟨rfl, h⟩
  | cons x rest ih =>
    unfold Sketch.play Replay.play
    rcases (h.step x).cases with ⟨hk, hr⟩ | ⟨k', r', result, hk, hr, hfollows⟩
    · rw [hk, hr]
      trivial
    · -- What is said about a step is not on paper, so the sketch is followed after it, too.
      have hsaid : Follows s n k' (r'.say (Replay.remark i result)) := hfollows.of_same rfl rfl rfl rfl
      rw [hk, hr]
      simp only [bind, Option.bind]
      rcases (ih hsaid (i + 1)).cases with ⟨hks, hrs⟩ | ⟨k'', r'', results, hks, hrs, hrest⟩
      · rw [hks, hrs]
        trivial
      · rw [hks, hrs]
        exact ⟨rfl, hrest⟩

/-- What comes of a replay is on paper. -/
theorem report (h : Follows s n k r) (results : List StepResult) :
    s.report r results = .ok (k.report s n results) := by
  have hactivity : r.commons.activity.count = if k.grip.isSome then n + 1 else n := by
    rw [h.count]
    split <;> rfl
  unfold Scenario.report Sketch.report
  rw [Commons.lock_of_clean h.clean, h.starts, h.requests, hactivity, h.viewport, ← h.board.containers]
  rfl

end Follows

/-! ## The whole replay -/

/-- The steps of a replay come to what the sketch says, or they never come to an end. -/
theorem play_eq_sketch (hb : s.board = .ok b) (n : Nat) :
    match s.sketch n with
    | some report => ∃ r results, (Replay.begin s b n).play 0 s.steps = some (r, results) ∧
        s.report r results = .ok report
    | none => (Replay.begin s b n).play 0 s.steps = none := by
  unfold Scenario.sketch
  rcases ((Follows.begin hb n).play 0 s.steps).cases with ⟨hk, hr⟩ | ⟨k, r, results, hk, hr, hfollows⟩
  · rw [hk]
    exact hr
  · rw [hk]
    exact ⟨r, results, hr, hfollows.report results⟩

/-- A replay whose steps come to an end is finished with the report on them. -/
theorem replay_of_play {s : Scenario} {b : Board} {n : Nat} {r : Replay} {results : List StepResult}
    {report : Report} (hb : s.board = .ok b) (hi : s.refreshInterval ≠ some 0)
    (hr : (Replay.begin s b n).play 0 s.steps = some (r, results)) (hreport : s.report r results = .ok report) :
    s.replay n = .ok (.finished report r.elapsed (r.log ++ [s.replayed])) := by
  rw [Scenario.replay, hb]
  simp [bind, Except.bind, hi, hr, hreport, pure, Except.pure]

/-- A replay with a step that never ends waits for ever. -/
theorem replay_of_waiting {s : Scenario} {b : Board} {n : Nat} (hb : s.board = .ok b)
    (hi : s.refreshInterval ≠ some 0) (hr : (Replay.begin s b n).play 0 s.steps = none) :
    s.replay n = .ok .waitsForever := by
  rw [Scenario.replay, hb]
  simp [bind, Except.bind, hi, hr, pure, Except.pure]

/-- **A replay is its sketch.** On every board that can be built, with any refresher that can be started and
    with anybody else's interactions in progress, a replay comes to exactly the report of its sketch, whoever
    goes on first at any moment; and it never comes to an end exactly if the sketch meets a dialog that is
    left open with no limit for waiting. -/
theorem replay_eq_sketch (s : Scenario) (b : Board) (n : Nat) (choose : Nat → Choice) (hb : s.board = .ok b)
    (hi : s.refreshInterval ≠ some 0) :
    match s.sketch n with
    | some report =>
      (∃ elapsed log, s.replay n = .ok (.finished report elapsed log)) ∧
        ∃ k, ∀ m, ((Runner.begin s b n).after choose m).report s =
          if k ≤ m then some (.ok report) else none
    | none =>
      s.replay n = .ok .waitsForever ∧
        ∀ m, ((Runner.begin s b n).after choose m).ended = false ∧
          ((Runner.begin s b n).after choose m).crashed = false := by
  have hplay := play_eq_sketch hb n
  have hbegin : Runner.Sound ((Replay.begin s b n).play 0 s.steps) (Runner.begin s b n) :=
    Runner.sound_begin hi
  have hsound := Runner.sound_after hbegin choose
  cases hsketch : s.sketch n with
  | none =>
    rw [hsketch] at hplay
    refine ⟨replay_of_waiting hb hi hplay, fun m => ⟨?_, (hsound m).crashed⟩⟩
    cases he : ((Runner.begin s b n).after choose m).ended with
    | false => rfl
    | true =>
      have hover := (Runner.outcome_of_ended (hsound m) he).1
      rw [hplay] at hover
      cases hover
  | some report =>
    rw [hsketch] at hplay
    obtain ⟨r, results, hrun, hreport⟩ := hplay
    refine ⟨⟨r.elapsed, r.log ++ [s.replayed], replay_of_play hb hi hrun hreport⟩, ?_⟩
    rw [hrun] at hbegin
    rw [← hreport]
    exact Runner.report_after hbegin s choose

/-- One card is carried from one column to another, while the board is refreshed every second. -/
def carriage : Scenario where
  name := "triage"
  description := none
  confirmationTimeout := none
  refresh := some ⟨true, none⟩
  viewport := ⟨0, 500, 500, 0⟩
  columns := [⟨"todo", true, true, [⟨"c1", true, 100, .null⟩]⟩, ⟨"done", true, true, []⟩]
  steps := [.start "c1" 0, .dropOn "done", .release .accept, .release .reject]

/-- The carriage comes to a report with the card in its new column. -/
theorem replay_eq_sketch_carriage :
    let b := Scenario.laidOut carriage.columns
    let report : Report :=
      { board := "triage"
        steps := [(.start "c1" 0, .started "c1"), (.dropOn "done", .dropEvaluated "done" true),
          (.release .accept, .released (.committed "done")), (.release .reject, .refused .noActiveDrag)]
        columns := [⟨"todo", [], true⟩, ⟨"done", ["c1"], true⟩]
        offset := 0
        activity := 3
        starts := [.null]
        requests := [.null] }
    carriage.board = .ok b ∧ carriage.refreshInterval ≠ some 0 ∧
      (∃ elapsed log, carriage.replay 3 = .ok (.finished report elapsed log)) ∧
      ∃ k, ∀ m, ((Runner.begin carriage b 3).after (fun i => ⟨i % 2 = 0, i % 3 = 0⟩) m).report carriage =
        if k ≤ m then some (.ok report) else none := by
  intro b report
  have hb : carriage.board = .ok b := Scenario.board_eq_ok.mpr ⟨by decide, by decide, rfl⟩
  have hsketch : carriage.sketch 3 = some report := by rfl
  have h := replay_eq_sketch carriage b 3 (fun i => ⟨i % 2 = 0, i % 3 = 0⟩) hb (by decide)
  rw [hsketch] at h
  exact ⟨hb, by decide, h⟩

end Kanban
