import Kanban.Dict
import Kanban.Decimal.Layout
import Kanban.Payload.Json
import Kanban.Text.Basic
import Kanban.Fault
import Kanban.Setting
import Kanban.Decode
import Kanban.Board.Edit
import Kanban.Scroll
import Kanban.Activity.Ledger
import Kanban.Confirmation
import Kanban.Drag.Desk
import Kanban.Drag.InPlace
import Kanban.Toml.Syntax
import Kanban.Scenario.Check
import Kanban.Scenario.Document
import Kanban.Log.Filter
import Kanban.Replay.Runner
import Kanban.Scenario.File
import Kanban.Refresh.Session
import Kanban.Refresh.Channel
import Kanban.CommandLine.Run
import Kanban.Main
import Kanban.Proofs.Drag.Activity
import Kanban.Proofs.Board.Operations
import Kanban.Proofs.Board.InPlace
import Kanban.Proofs.Drag.Marks
import Kanban.Proofs.Board.Consistent
import Kanban.Proofs.Confirmation
import Kanban.Proofs.Dict
import Kanban.Proofs.Fault
import Kanban.Proofs.Replay.Activity
import Kanban.Proofs.Replay.Wrapped
import Kanban.Proofs.Replay.Checked
import Kanban.Proofs.Board.Arrivals
import Kanban.Proofs.Refresh.LiveBoard
import Kanban.Proofs.Drag.Stages
import Kanban.Proofs.Drag.Sessions
import Kanban.Proofs.Drag.Release
import Kanban.Proofs.Drag.Alongside
import Kanban.Proofs.Drag.Handles
import Kanban.Proofs.Confirmation.Agreement
import Kanban.Proofs.Drag.Phases
import Kanban.Proofs.Board.Unmarked
import Kanban.Proofs.Drag.Unmoved
import Kanban.Proofs.Replay.Parts
import Kanban.Proofs.Replay.Resumed
import Kanban.Proofs.Double
import Kanban.Proofs.Scroll.Exact
import Kanban.Proofs.Scroll.Range
import Kanban.Proofs.Drag.Scrolling
import Kanban.Proofs.Refresh.Turns
import Kanban.Proofs.Refresh.Cadence
import Kanban.Proofs.Board.Independence
import Kanban.Proofs.Board.Acceptance
import Kanban.Proofs.Drag.Targets
import Kanban.Proofs.Ledger
import Kanban.Proofs.Scenario.Template
import Kanban.Proofs.Scenario.WellFormed
import Kanban.Proofs.Drag.InPlace
import Kanban.Proofs.Drag.Refusals
import Kanban.Proofs.Refresh.Shutdown
import Kanban.Proofs.Scenario.FirstRepeat
import Kanban.Proofs.Board.Document
