import Kanban.Scenario.Basic

/-!
# `Scenario.Document` — scenarios written out

Every field is written, optional ones that are absent as `null`, and doubles that are not finite as `null`.

## Contents
- `ScenarioStep.toPayload`, `Scenario.toPayload`.
-/

namespace Kanban

/-- The name of a decision. -/
def Decision.name : Decision → String
  | accept => "accept"
  | reject => "reject"
  | never => "never"

/-- A step as a record that says what it is. -/
def ScenarioStep.toPayload : ScenarioStep → Payload
  | start card left => .record [("action", .text "start"), ("card", .text card), ("left", .ofFloat left)]
  | move left => .record [("action", .text "move"), ("helper_left", .ofFloat left)]
  | dropOn column => .record [("action", .text "drop_on"), ("column", .text column)]
  | release decision => .record [("action", .text "release"), ("confirm", .text decision.name)]
  | setDroppable column droppable =>
    .record [("action", .text "set_droppable"), ("column", .text column), ("droppable", .flag droppable)]

/-- A card as a record. -/
def CardPlan.toPayload (c : CardPlan) : Payload :=
  .record [("id", .text c.id), ("draggable", .flag c.draggable), ("width", .ofFloat c.width),
    ("issue", c.issue)]

/-- A column as a record. -/
def ColumnPlan.toPayload (c : ColumnPlan) : Payload :=
  .record [("id", .text c.id), ("droppable", .flag c.droppable), ("accepts_drops", .flag c.acceptsDrops),
    ("cards", .list (c.cards.map CardPlan.toPayload))]

/-- A viewport as a record. -/
def ViewportPlan.toPayload (v : ViewportPlan) : Payload :=
  .record [("left", .ofFloat v.left), ("width", .ofFloat v.width),
    ("content_width", .ofFloat v.contentWidth), ("scroll_offset", .ofFloat v.offset)]

/-- A refresh section as a record. -/
def RefreshPlan.toPayload (r : RefreshPlan) : Payload :=
  .record [("enabled", .flag r.enabled), ("interval_ms", .ofOption .ofNat r.interval)]

/-- A scenario as a record. -/
def Scenario.toPayload (s : Scenario) : Payload :=
  .record [
    ("board", .record [("name", .text s.name), ("description", .ofOption .text s.description)]),
    ("drag", .record [("confirmation_timeout_ms", .ofOption .ofNat s.confirmationTimeout)]),
    ("refresh", .ofOption RefreshPlan.toPayload s.refresh),
    ("viewport", s.viewport.toPayload),
    ("columns", .list (s.columns.map ColumnPlan.toPayload)),
    ("steps", .list (s.steps.map ScenarioStep.toPayload))]

end Kanban
