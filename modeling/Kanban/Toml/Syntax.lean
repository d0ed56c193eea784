import Kanban.Toml.Scalar
import Kanban.Toml.Tree

/-!
# `Toml.Syntax` — reading TOML documents

## Contents
- Values: `value`, with lists and inline tables down to `maxDepth`.
- Statements: headers and assignments.
- `parse`: the whole document as one table.
-/

namespace Kanban.Toml

/-! ## Values -/

/-- What stands between the items of a bracket: a comma, or the closing bracket right away. -/
def separator (closing : Char) (cs : List Char) : Option (Bool × List Char) := do
  match ← skipFiller cs with
  | c :: rest => if c = ',' then some (true, rest) else if c = closing then some (false, rest) else none
  | [] => none

mutual

/-- A value. Every call takes a character or one unit of fuel; `depth` counts the brackets around it. -/
def value (fuel depth : Nat) : Scan Value := fun cs =>
  match fuel with
  | 0 => none
  | fuel + 1 =>
    match cs with
    | '[' :: rest =>
      if maxDepth ≤ depth then none
      else (listItems fuel (depth + 1) rest).map fun (items, rest) => (.list items, rest)
    | '{' :: rest =>
      if maxDepth ≤ depth then none
      else (inlineFields fuel (depth + 1) [] rest).map fun (t, rest) => (t.close, rest)
    | '"' :: _ => (quotedText cs).map fun (s, rest) => (.text (String.ofList s), rest)
    | '\'' :: _ => (quotedText cs).map fun (s, rest) => (.text (String.ofList s), rest)
    | _ => bareValue cs

/-- The items of a list up to its closing bracket. -/
def listItems (fuel depth : Nat) : Scan (List Value) := fun cs =>
  match fuel with
  | 0 => none
  | fuel + 1 => do
    match ← skipFiller cs with
    | ']' :: rest => some ([], rest)
    | cs =>
      let (v, rest) ← value fuel depth cs
      let (more, rest) ← separator ']' rest
      if more then
        let (vs, rest) ← listItems fuel depth rest
        return (v :: vs, rest)
      else return ([v], rest)

/-- The fields of an inline table up to its closing bracket, added to those before them. -/
def inlineFields (fuel depth : Nat) (t : Tree) : Scan Tree := fun cs =>
  match fuel with
  | 0 => none
  | fuel + 1 => do
    match ← skipFiller cs with
    | '\x7d' :: rest => some (t, rest)
    | cs =>
      let (path, k, rest) ← key cs
      let (v, rest) ← value fuel depth (skipBlanks (← take '=' rest))
      let t ← t.assign path k v .header
      let (more, rest) ← separator '\x7d' rest
      if more then inlineFields fuel depth t rest else return (t, rest)

end

/-! ## Statements -/

/-- A statement of a document. -/
inductive Statement where
  /-- Everything that follows belongs to a table. -/
  | openTable (path : List String) (k : String)
  /-- Everything that follows belongs to a new table among those that share a header. -/
  | appendTable (path : List String) (k : String)
  | assign (path : List String) (k : String) (v : Value)

/-- One statement without the end of its line. -/
def statement : Scan Statement := fun cs =>
  match cs with
  | '[' :: '[' :: rest => do
    let (path, k, rest) ← key rest
    match rest with
    | ']' :: ']' :: rest => some (.appendTable path k, rest)
    | _ => none
  | '[' :: rest => do
    let (path, k, rest) ← key rest
    return (.openTable path k, ← take ']' rest)
  | cs => do
    let (path, k, rest) ← key cs
    let cs := skipBlanks (← take '=' rest)
    let (v, rest) ← value (2 * cs.length + 2) 0 cs
    return (.assign path k v, rest)

/-- The statements of a text. Every round takes at least one character. -/
def statements : Nat → List Char → Option (List Statement)
  | 0, _ => none
  | fuel + 1, cs => do
    match ← skipFiller cs with
    | [] => some []
    | cs =>
      let (s, rest) ← statement cs
      let rest ← endOfStatement rest
      return s :: (← statements fuel rest)

/-! ## Documents -/

/-- A document while it is read: all tables, and the one that assignments go to. -/
structure Draft where
  root : Tree
  here : List String

/-- The document after one more statement. -/
def Draft.add (d : Draft) : Statement → Option Draft
  | .openTable path k => do
    return ⟨← Tree.descend false (Tree.openTable k) path .header d.root, path ++ [k]⟩
  | .appendTable path k => do
    return ⟨← Tree.descend false (Tree.appendTable k) path .header d.root, path ++ [k]⟩
  | .assign path k v => do
    return { d with root := ← Tree.descend false (fun o t => t.assign path k v o) d.here .header d.root }

/-- A mark at the start of a text that is not part of it. -/
def dropByteOrderMark : List Char → List Char
  | '\uFEFF' :: rest => rest
  | cs => cs

/-- The table that a document describes. -/
def parse (s : String) : Option Value := do
  let cs := dropByteOrderMark s.toList
  let d ← (← statements (cs.length + 1) cs).foldlM Draft.add ⟨[], []⟩
  return d.root.close

end Kanban.Toml
