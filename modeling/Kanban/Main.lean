import Kanban.CommandLine.Run
import Kanban.Scenario.Template

/-!
# `Main` — the command line

Reads the arguments, the board file and the variables it refers to, and prints what a run puts out.
-/

namespace Kanban.CommandLine

/-- The text that explains the options. -/
def usage : String :=
  "Replay drag-and-drop sessions against a kanban board

Usage: kanban-drag [OPTIONS]

Options:
  -c, --config <CONFIG>  Path to the TOML board/scenario file [default: board.toml]
  -v, --verbose          Enable verbose output
      --json-logs        Emit logs as JSON
      --dry-run          Validate and summarize the scenario without replaying it
  -h, --help             Print help"

/-- What went wrong while reading a file. -/
def stored (e : IO.Error) : Stored :=
  match e with
  | .noFileOrDirectory .. => .missing
  | .inappropriateType .. => .directory
  | .permissionDenied _ code details => .unreadable s!"{details} (os error {code})"
  | e => .unreadable e.toString

/-- What there is under a path. -/
def find (path : String) : IO Stored := do
  try return .bytes (← IO.FS.readBinFile path)
  catch e => return stored e

/-- The variables of the environment that a file refers to, and the one that holds the log filter. -/
def environment (file : Stored) : IO (List (String × String)) := do
  let names := match file.text with
    | .ok text => Template.names text
    | .error _ => []
  (filterVariable :: names).filterMapM fun name => do
    return (← IO.getEnv name).map (name, ·)

/-- Print something that a run puts out. -/
def print (o : Options) : Output → IO Unit
  | .line l => IO.println (if o.jsonLogs then l.json else l.plain)
  | .report r => IO.println (Payload.Json.pretty Payload.Json.standard 0 r.toPayload)
  | .complaint text => IO.eprintln text

end Kanban.CommandLine

open Kanban in
/-- Run the program. -/
def main (arguments : List String) : IO UInt32 := do
  match Options.ofArguments arguments with
  | .error u =>
    match u with
    | .help => IO.println CommandLine.usage
    | .misuse => IO.eprintln CommandLine.usage
    return u.exit
  | .ok o =>
    let file ← CommandLine.find o.board
    let settings ← CommandLine.environment file
    let p := o.perform (fun name => settings.lookup name) file
    p.output.forM (CommandLine.print o)
    return p.exit
