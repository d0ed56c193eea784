/-!
# `CommandLine.Arguments` — what the program is asked to do

Options are read from left to right, and the first argument that makes no sense, or asks for help, decides.
Every option may be given once.

## Contents
- `Options`: what can be asked for.
- `Usage`: the two ways of ending with the usage text.
- `Options.ofArguments`.
-/

namespace Kanban

/-- What can be asked for. -/
structure Options where
  /-- The path of the board file, if one is given. -/
  path : Option String
  verbose : Bool
  jsonLogs : Bool
  /-- Stop before the steps are replayed. -/
  dryRun : Bool
  deriving DecidableEq, Repr

/-- Why the program only shows its usage. -/
inductive Usage where
  | help
  /-- An argument makes no sense. -/
  | misuse
  deriving DecidableEq, Repr

/-- The exit code that goes with showing the usage. -/
def Usage.exit : Usage → UInt32
  | help => 0
  | misuse => 2

namespace Options

/-- Nothing is asked for. -/
def none : Options := ⟨.none, false, false, false⟩

/-- The path of the board file. -/
def board (o : Options) : String := o.path.getD "board.toml"

/-! ## Options inside an argument -/

/-- One option as it is written. -/
inductive Item where
  /-- The path of the board file; without one it is the next argument. -/
  | path (value : Option String)
  | verbose
  | jsonLogs
  | dryRun
  | help
  | unknown
  deriving DecidableEq, Repr

/-- The value that follows an option's letter in the same argument, after `=` or at once. -/
def attached : List Char → Option String
  | [] => .none
  | '=' :: value => some (String.ofList value)
  | value => some (String.ofList value)

/-- Options of one letter each. -/
def itemsOfLetters : List Char → List Item
  | [] => []
  | 'c' :: rest => [.path (attached rest)]
  | 'v' :: rest => .verbose :: itemsOfLetters rest
  | 'h' :: rest => .help :: itemsOfLetters rest
  | _ :: _ => [.unknown]

/-- An option written as a word, with its value after `=`. -/
def itemOfWord (name : String) (value : Option String) : Item :=
  match name, value with
  | "config", value => .path value
  | "verbose", .none => .verbose
  | "json-logs", .none => .jsonLogs
  | "dry-run", .none => .dryRun
  | "help", .none => .help
  | _, _ => .unknown

/-- The options in one argument. -/
def itemsOfArgument (argument : String) : List Item :=
  match argument.toList with
  | '-' :: '-' :: word =>
    let name := word.takeWhile (· ≠ '=')
    let value := match word.drop name.length with
      | [] => .none
      | _ :: value => some (String.ofList value)
    [itemOfWord (String.ofList name) value]
  | '-' :: letter :: letters => itemsOfLetters (letter :: letters)
  | _ => [.unknown]

/-! ## Reading -/

/-- Options read so far. -/
structure Reading where
  options : Options
  /-- The next argument is the path of the board file. -/
  awaiting : Bool
  /-- No option may follow. -/
  closed : Bool
  deriving DecidableEq, Repr

/-- Take a setting that may be given once. -/
def once (given : Bool) (r : Reading) : Except Usage Reading :=
  if given then .error .misuse else .ok r

/-- Take the path of the board file. -/
def Reading.withPath (r : Reading) (value : String) : Except Usage Reading :=
  once r.options.path.isSome { r with options := { r.options with path := some value }, awaiting := false }

/-- Take one option. -/
def Reading.item (r : Reading) : Item → Except Usage Reading
  | .path .none => .ok { r with awaiting := true }
  | .path (some value) => r.withPath value
  | .verbose => once r.options.verbose { r with options := { r.options with verbose := true } }
  | .jsonLogs => once r.options.jsonLogs { r with options := { r.options with jsonLogs := true } }
  | .dryRun => once r.options.dryRun { r with options := { r.options with dryRun := true } }
  | .help => .error .help
  | .unknown => .error .misuse

/-- Whether an argument can be a value: it does not look like an option. -/
def isValue (argument : String) : Bool := argument = "-" || argument.toList.head? ≠ some '-'

/-- Take one argument. -/
def Reading.argument (r : Reading) (argument : String) : Except Usage Reading :=
  if r.closed then .error .misuse
  else if r.awaiting then if isValue argument then r.withPath argument else .error .misuse
  else if argument = "--" then .ok { r with closed := true }
  else (itemsOfArgument argument).foldlM Reading.item r

/-- The options that all arguments together amount to. -/
def ofArguments (arguments : List String) : Except Usage Options := do
  let r ← arguments.foldlM Reading.argument ⟨none, false, false⟩
  if r.awaiting then throw .misuse
  return r.options

end Options

end Kanban
