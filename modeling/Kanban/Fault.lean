/-!
# `Fault` — what can go wrong

One type for every refusal of a board, a drag, a scenario or a setting, and its three texts: the exact
message, a message for the person at the board, and what that person can do.

## Contents
- `Fault`, `Fault.message`, `Fault.friendly`, `Fault.suggestion`.
- `Fault.concernsSettings`: whether the board file is to blame.
-/

namespace Kanban

/-- A reason why an operation was refused. -/
inductive Fault where
  /-- A file could not be read or written. -/
  | io (cause : String)
  /-- A document has the wrong shape. -/
  | serialization (cause : String)
  /-- A board file has the wrong syntax or the wrong shape. -/
  | toml (cause : String)
  /-- A board file makes no sense. -/
  | config (reason : String)
  /-- A setting has a value outside its range. -/
  | invalidSetting (field value reason : String)
  /-- A setting has no value. -/
  | missingSetting (field : String)
  /-- A value breaks a rule of its own. -/
  | validation (reason : String)
  /-- A card is not on the board. -/
  | unknownCard (card : String)
  /-- A container is not on the board. -/
  | unknownContainer (container : String)
  /-- A card may not be dragged. -/
  | notDraggable (card : String)
  /-- Another drag is not over yet. -/
  | dragInProgress (card : String)
  /-- Nothing is being dragged. -/
  | noActiveDrag
  /-- The board was left behind in the middle of a change. -/
  | boardUnavailable
  deriving DecidableEq, Repr

namespace Fault

/-- The exact message. -/
def message : Fault → String
  | io cause => s!"IO error: {cause}"
  | serialization cause => s!"Serialization error: {cause}"
  | toml cause => s!"TOML parsing error: {cause}"
  | config reason => s!"Configuration error: {reason}"
  | invalidSetting field value reason => s!"Invalid value '{value}' for {field}: {reason}"
  | missingSetting field => s!"Missing required configuration: {field}"
  | validation reason => s!"Validation error: {reason}"
  | unknownCard card => s!"Unknown card: {card}"
  | unknownContainer container => s!"Unknown container: {container}"
  | notDraggable card => s!"Card {card} is not registered as draggable"
  | dragInProgress card => s!"A drag of card {card} is already in progress"
  | noActiveDrag => "No drag session is active"
  | boardUnavailable => "Board state is unavailable (lock poisoned)"

/-- The message for the person at the board. -/
def friendly : Fault → String
  | io cause => s!"Could not read or write a file: {cause}"
  | toml _ => "The board file is not valid TOML"
  | invalidSetting field _ reason => s!"Setting '{field}' is invalid: {reason}"
  | missingSetting field => s!"Setting '{field}' is required"
  | unknownCard card => s!"Card '{card}' is not on the board"
  | unknownContainer container => s!"Column '{container}' is not on the board"
  | dragInProgress _ => "Another card is still being dragged"
  | fault => fault.message

/-- What the person at the board can do. -/
def suggestion : Fault → String
  | io _ => "Check that the file exists and is readable"
  | toml _ | config _ => "Fix the syntax of the board file and try again"
  | invalidSetting _ _ _ | missingSetting _ | validation _ =>
    "Correct the reported setting in the board file"
  | unknownCard _ | unknownContainer _ =>
    "Make sure every step refers to a card or column defined on the board"
  | notDraggable _ => "Mark the card as draggable before dragging it"
  | dragInProgress _ | noActiveDrag => "Release the current drag before starting another one"
  | boardUnavailable => "Reload the board"
  | serialization _ => "Check the issue payloads for unsupported values"

/-- Whether the board file is to blame. -/
def concernsSettings : Fault → Bool
  | toml _ | config _ | invalidSetting _ _ _ | missingSetting _ | validation _ => true
  | _ => false

end Fault

end Kanban
