import Kanban.CommandLine.Arguments
import Kanban.Log.Filter
import Kanban.Replay.Report
import Kanban.Scenario.Check
import Kanban.Scenario.File

/-!
# `CommandLine.Run` — one run of the program

Load a board file, check it, say what is on it, and replay its steps.

## Contents
- `Output`, `Performance`: what comes out of a run.
- `Options.perform`.
-/

namespace Kanban

/-- Something that a run puts out. -/
inductive Output where
  | line (l : Log.Line)
  | report (r : Report)
  /-- A line for the person at the terminal. -/
  | complaint (text : String)

/-- What a run puts out, in order, and its exit code. -/
structure Performance where
  exit : UInt32
  output : List Output

namespace Performance

/-- The lines of the log. -/
def lines (p : Performance) : List Log.Line :=
  p.output.filterMap fun
    | .line l => some l
    | _ => none

/-- The report, if there is one. -/
def report? (p : Performance) : Option Report :=
  p.output.findSome? fun
    | .report r => some r
    | _ => none

/-- The lines for the person at the terminal. -/
def complaints (p : Performance) : List String :=
  p.output.filterMap fun
    | .complaint text => some text
    | _ => none

end Performance

/-! ## Parts of a run -/

namespace CommandLine

/-- A line about the run itself. -/
def inform (message : String) : Output := .line ⟨.info, .program, message⟩

/-- A line about an error. -/
def alarm (message : String) : Output := .line ⟨.error, .program, message⟩

/-- The first lines of every run. -/
def opening (path : String) : List Output :=
  [inform "🚀 Starting kanban-drag", inform s!"📁 Loading board from: {path}"]

/-- A board file that cannot be loaded. -/
def loadFailure (path : String) (fault : Fault) : List Output :=
  [.complaint s!"❌ Failed to load board file '{path}': {fault.message}",
    .complaint s!"💡 {fault.suggestion}"]

/-- A board file that makes no sense. -/
def checkFailure (fault : Fault) : List Output :=
  [alarm s!"❌ Configuration validation failed: {fault.message}",
    alarm s!"💡 Suggestion: {fault.suggestion}",
    .complaint s!"❌ {fault.friendly}"]

/-- How long releases wait. -/
def describeLimit : Option Nat → String
  | some ms => Text.duration ms
  | none => "none"

/-- What is on a board. -/
def summary (s : Scenario) : List Output :=
  [inform s!"📋 Board: {s.name}"] ++
  (s.description.toList.map fun d => inform s!"   {d}") ++
  [inform s!"🗂️ {s.columns.length} column(s), {s.cardCount} card(s), {s.steps.length} step(s)",
    inform ("⏱️ Confirmation timeout: " ++ describeLimit s.limit)] ++
  s.refreshInterval.toList.map fun ms => inform ("🔄 Live refresh every " ++ Text.duration ms)

/-- A remark on interactions that a replay leaves in progress. -/
def leftover (r : Report) : List Output :=
  if r.activity = 0 then []
  else [.line ⟨.warn, .program,
    s!"⚠️ Activity count is {r.activity} after replay; background refresh stays paused"⟩]

/-- Replay a scenario. One that makes sense always comes to a report. -/
def replay (s : Scenario) : Performance :=
  match s.replay 0 with
  | .ok (.finished r _ log) => ⟨0, log.map .line ++ [.report r] ++ leftover r⟩
  | .ok .waitsForever | .ok .crashed => ⟨1, [.complaint "Error: replay failed"]⟩
  | .error fault => ⟨1, [.complaint "Error: replay failed", .complaint s!"Caused by: {fault.message}"]⟩

/-- Work on a scenario that has been loaded. -/
def work (dryRun : Bool) (s : Scenario) : Performance :=
  match s.check with
  | .error fault => ⟨1, checkFailure fault⟩
  | .ok () =>
    let heading := inform "✅ Board loaded and validated" :: summary s
    if dryRun then ⟨0, heading ++ [inform "🔍 DRY RUN MODE - steps are not replayed"]⟩
    else
      let rest := replay s
      { rest with output := heading ++ rest.output }

/-! ## Filtering -/

/-- The variable of the environment that holds the log filter. -/
def filterVariable : String := "RUST_LOG"

/-- The filter that the environment asks for. One that makes no sense is ignored. -/
def filterOf (env : String → Option String) : Log.Filter :=
  ((env filterVariable).bind Log.Filter.ofText).getD Log.Filter.default

/-- Whether an output gets through a filter. -/
def passes (f : Log.Filter) : Output → Bool
  | .line l => f.shows l
  | _ => true

end CommandLine

/-! ## A run -/

namespace Options

/-- One run of the program with the board file that it finds. -/
def perform (o : Options) (env : String → Option String) (file : Stored) : Performance :=
  let p : Performance := match Scenario.loadStored env file with
    | .error fault => ⟨1, CommandLine.loadFailure o.board fault⟩
    | .ok s => CommandLine.work o.dryRun s
  let filter := CommandLine.filterOf env
  { p with output := (CommandLine.opening o.board ++ p.output).filter (CommandLine.passes filter) }

end Options

end Kanban
