import Kanban.Toml.Value
import Kanban.Dict

/-!
# `Toml.Tree` — tables while they are written

A document mentions a table in several places: in headers, as part of longer headers, and through dotted
keys. How a table came about decides what may still be added to it.

## Contents
- `Origin`, `Node`.
- `Tree.descend`: walking along a path.
- `Tree.assign`, `Tree.openTable`, `Tree.appendTable`: what a document does.
- `Node.close`: the finished value.
-/

namespace Kanban.Toml

/-- How a table came about. -/
inductive Origin where
  /-- By a header of its own. -/
  | header
  /-- As part of a longer header. -/
  | implied
  /-- Through a dotted key. -/
  | dotted
  deriving DecidableEq, Repr

/-- A part of a document while it is written. Values between brackets are finished at once. -/
inductive Node where
  | value (v : Value)
  | table (origin : Origin) (entries : List (String × Node))
  /-- Tables that share a header, latest first. -/
  | tables (latest : List (String × Node)) (earlier : List (List (String × Node)))
  deriving Inhabited

/-- The entries of a table while it is written, sorted by key. -/
abbrev Tree := List (String × Node)

namespace Tree

/-- Store a node under a key. -/
def put (t : Tree) (k : String) (n : Node) : Tree := Dict.insertEntry k n t

/-- Walk along a path and change the table at its end, which is told its origin. Tables on the way are made
    if they are missing; the way leads through the latest of tables that share a header. With dotted keys,
    the way leads through no table that has a header of its own. -/
def descend (dotted : Bool) (change : Origin → Tree → Option Tree) :
    List String → Origin → Tree → Option Tree
  | [], origin, t => change origin t
  | k :: path, _, t =>
    match t.lookup k with
    | none => do
      let origin := if dotted then Origin.dotted else Origin.implied
      return t.put k (.table origin (← descend dotted change path origin []))
    | some (.table origin entries) =>
      if dotted ∧ origin = .header then none
      else do return t.put k (.table origin (← descend dotted change path origin entries))
    | some (.tables latest earlier) => do
      return t.put k (.tables (← descend dotted change path .header latest) earlier)
    | some (.value _) => none

/-- Store a value under a key of a table. A single key belongs to a table with a header, the last part of a
    dotted key to one that came about through dotted keys. -/
def store (dotted : Bool) (k : String) (v : Value) (origin : Origin) (t : Tree) : Option Tree :=
  if dotted ≠ decide (origin = .dotted) then none
  else if (t.lookup k).isSome then none
  else some (t.put k (.value v))

/-- Store a value under a dotted key. -/
def assign (path : List String) (k : String) (v : Value) (origin : Origin) (t : Tree) : Option Tree :=
  descend true (store (!path.isEmpty) k v) path origin t

/-- Open a table by a header. It may have come about as part of a longer header before. -/
def openTable (k : String) (_ : Origin) (t : Tree) : Option Tree :=
  match t.lookup k with
  | none => some (t.put k (.table .header []))
  | some (.table .implied entries) => some (t.put k (.table .header entries))
  | some _ => none

/-- Append a table to those that share a header. -/
def appendTable (k : String) (_ : Origin) (t : Tree) : Option Tree :=
  match t.lookup k with
  | none => some (t.put k (.tables [] []))
  | some (.tables latest earlier) => some (t.put k (.tables [] (latest :: earlier)))
  | some _ => none

end Tree

/-! ## Finished values -/

mutual

/-- The value of a finished part. -/
def Node.close : Node → Value
  | .value v => v
  | .table _ entries => .table (closeEntries entries)
  | .tables latest earlier => .list (closeTables earlier [.table (closeEntries latest)])

/-- The values of finished entries. -/
def closeEntries : List (String × Node) → List (String × Value)
  | [] => []
  | (k, n) :: rest => (k, n.close) :: closeEntries rest

/-- The values of finished tables, latest first, in front of later ones. -/
def closeTables : List (List (String × Node)) → List Value → List Value
  | [], later => later
  | t :: earlier, later => closeTables earlier (.table (closeEntries t) :: later)

end

/-- The value of a finished tree. -/
def Tree.close (t : Tree) : Value := .table (closeEntries t)

end Kanban.Toml
