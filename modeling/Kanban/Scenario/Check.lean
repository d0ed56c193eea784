import Kanban.Scenario.Basic
import Kanban.Setting

/-!
# `Scenario.Check` — whether a scenario makes sense

The settings are checked in a fixed order and the first fault is reported.

## Contents
- `Scenario.check` and its parts.
-/

namespace Kanban.Scenario

/-- The longest time that a release may be told to wait: one hour. -/
def maxConfirmationTimeout : Nat := 3600000

/-- The viewport has a width, nothing is negative, and everything is finite. -/
def checkViewport (v : ViewportPlan) : Except Fault Unit := do
  Setting.positive "viewport.width" v.width
  Setting.nonNegative "viewport.content_width" v.contentWidth
  Setting.nonNegative "viewport.scroll_offset" v.offset
  Setting.finite "viewport.left" v.left

/-- A release waits for at most an hour. -/
def checkTimeout : Option Nat → Except Fault Unit
  | none => .ok ()
  | some ms => Setting.within "drag.confirmation_timeout_ms" ms 0 maxConfirmationTimeout

/-- A background refresh that is enabled has an interval between ten milliseconds and ten minutes. -/
def checkRefresh : Option RefreshPlan → Except Fault Unit
  | none => .ok ()
  | some r =>
    if r.enabled then do
      let ms ← Setting.required "refresh.interval_ms" r.interval
      Setting.within "refresh.interval_ms" ms 10 600000
    else .ok ()

/-- There is a column, identifiers differ, and cards have a width. -/
def checkColumns (s : Scenario) : Except Fault Unit := do
  if s.columns.isEmpty then throw (.missingSetting "columns")
  Setting.distinct "columns.id" s.columnIds
  Setting.distinct "columns.cards.id" s.cardIds
  s.cards.forM fun c => Setting.positive "columns.cards.width" c.width

/-- A step names what there is and moves to a finite place; a dialog left open has to end some day. -/
def checkStep (s : Scenario) : ScenarioStep → Except Fault Unit
  | .start card left => do
    Setting.known "steps.card" card s.cardIds
    Setting.finite "steps.left" left
  | .move left => Setting.finite "steps.helper_left" left
  | .dropOn column | .setDroppable column _ => Setting.known "steps.column" column s.columnIds
  | .release decision =>
    Setting.demand (!(decision = .never && s.limit.isNone)) "steps.confirm" "never"
      "An unanswered confirmation needs drag.confirmation_timeout_ms > 0"

/-- Whether a scenario makes sense. -/
def check (s : Scenario) : Except Fault Unit := do
  Setting.filled "board.name" s.name
  checkViewport s.viewport
  checkTimeout s.confirmationTimeout
  checkRefresh s.refresh
  s.checkColumns
  s.steps.forM s.checkStep

end Kanban.Scenario
