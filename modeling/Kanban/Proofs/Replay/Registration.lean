import Kanban.Proofs.Dict
import Kanban.Replay.Run

/-!
# `Proofs.Replay.Registration` — what a scenario allows to drag and where

## Contents
- `controllerOf_eq`: registering touches nothing but the zones and the draggable cards.
- `callback?_controllerOf`: a column is a zone exactly if it accepts drops.
- `draggables_controllerOf`: a card may be dragged exactly if the scenario says so.
-/

namespace Kanban.Replay

/-! ## Registering -/

/-- Allow or forbid to drag a card of a scenario. -/
def allow (d : Dict Unit) (c : CardPlan) : Dict Unit := if c.draggable then d.insert c.id () else d.erase c.id

/-- Open or close the zone of a column of a scenario. -/
def opened (z : DropZones String) (c : ColumnPlan) : DropZones String :=
  z.register c.id (if c.acceptsDrops then some c.id else none)

theorem registerDraggable_foldl (c : Controller String) (cards : List CardPlan) :
    cards.foldl (fun c card => c.registerDraggable card.id card.draggable) c =
      { c with draggables := cards.foldl allow c.draggables } := by
  induction cards generalizing c with
  | nil => rfl
  | cons card rest ih =>
    rw [List.foldl_cons, ih]
    rfl

theorem register_eq (c : Controller String) (column : ColumnPlan) :
    register c column =
      { c with zones := opened c.zones column, draggables := column.cards.foldl allow c.draggables } :=
  registerDraggable_foldl (c.registerZone column.id _) column.cards

theorem register_foldl (c : Controller String) (columns : List ColumnPlan) :
    columns.foldl register c =
      { c with
        zones := columns.foldl opened c.zones
        draggables := (columns.flatMap (·.cards)).foldl allow c.draggables } := by
  induction columns generalizing c with
  | nil => rfl
  | cons column rest ih =>
    rw [List.foldl_cons, ih, register_eq, List.flatMap_cons, List.foldl_append]
    rfl

/-- **The controller of a scenario** is a new one but for its limit, its zones and its draggable cards. -/
theorem controllerOf_eq (s : Scenario) :
    controllerOf s =
      { viewport := ⟨⟨s.viewport.left, s.viewport.width⟩, s.viewport.contentWidth, s.viewport.offset⟩
        zones := s.columns.foldl opened DropZones.empty
        draggables := s.cards.foldl allow Dict.empty
        limit := s.limit
        phase := .idle
        session := none } :=
  register_foldl _ s.columns

/-! ## Zones -/

theorem callback?_opened (z : DropZones String) (c : ColumnPlan) (x : String) :
    (opened z c).callback? x =
      if x = c.id then (if c.acceptsDrops then some c.id else none) else z.callback? x :=
  z.callback?_register c.id _ x

/-- **A column is a zone exactly if it accepts drops,** and its callback is its own. -/
theorem callback?_controllerOf {s : Scenario} (hn : s.columnIds.Nodup) {c : ColumnPlan}
    (hc : c ∈ s.columns) :
    (controllerOf s).zones.callback? c.id = if c.acceptsDrops then some c.id else none := by
  rw [controllerOf_eq]
  exact Dict.get_foldl_of_mem callback?_opened hn hc DropZones.empty

theorem callback?_controllerOf_of_not_mem {s : Scenario} {x : String} (hx : x ∉ s.columnIds) :
    (controllerOf s).zones.callback? x = none := by
  rw [controllerOf_eq]
  exact Dict.get_foldl_of_not_mem callback?_opened hx DropZones.empty

/-! ## Draggable cards -/

/-- A card that is allowed is among the draggable ones, and one that is forbidden is not any more. -/
theorem contains_allow (d : Dict Unit) (c : CardPlan) (x : String) :
    (allow d c).contains x = if x = c.id then c.draggable else d.contains x := by
  unfold allow Dict.contains
  cases c.draggable with
  | true =>
    rw [if_pos rfl, Dict.get?_insert]
    by_cases h : x = c.id
    · rw [if_pos h, if_pos h]
      rfl
    · rw [if_neg h, if_neg h]
  | false =>
    rw [if_neg (by simp), Dict.get?_erase]
    by_cases h : x = c.id
    · rw [if_pos h, if_pos h]
      rfl
    · rw [if_neg h, if_neg h]

/-- **A card may be dragged exactly if the scenario says so.** -/
theorem draggables_controllerOf {s : Scenario} (hn : s.cardIds.Nodup) {c : CardPlan} (hc : c ∈ s.cards) :
    (controllerOf s).draggables.contains c.id = c.draggable := by
  rw [controllerOf_eq]
  exact Dict.get_foldl_of_mem contains_allow hn hc Dict.empty

theorem draggables_controllerOf_of_not_mem {s : Scenario} {x : String} (hx : x ∉ s.cardIds) :
    (controllerOf s).draggables.contains x = false := by
  rw [controllerOf_eq]
  exact Dict.get_foldl_of_not_mem contains_allow hx Dict.empty

end Kanban.Replay
