/-!
# `Toml.Scan` — characters of a TOML document

A scanner takes what it recognises off the front of a text and leaves the rest, or fails.

## Contents
- `Scan`: the type of scanners; blanks, line ends, comments, literal tokens.
- Quoted texts in their four forms: `basicText`, `literalText`, `basicBlock`, `literalBlock`.
- `key`: dotted keys, and `maxDepth`.
-/

namespace Kanban.Toml

/-- A scanner: it takes something off the front of a text. -/
abbrev Scan (α : Type) := List Char → Option (α × List Char)

/-! ## Blanks, line ends and comments -/

/-- Blanks inside a line. -/
def isBlank (c : Char) : Bool := c == ' ' || c == '\t'

/-- Characters that may not be written as they are. -/
def isControl (c : Char) : Bool := (c.toNat < 32 && c != '\t') || c.toNat == 127

/-- Skip blanks. -/
def skipBlanks (cs : List Char) : List Char := cs.dropWhile isBlank

/-- A line end. -/
def lineEnd : List Char → Option (List Char)
  | '\n' :: rest => some rest
  | '\r' :: '\n' :: rest => some rest
  | _ => none

/-- The rest of a comment up to its line end or the end of the text. -/
def commentRest : List Char → Option (List Char)
  | [] => some []
  | '\n' :: rest => some ('\n' :: rest)
  | '\r' :: '\n' :: rest => some ('\r' :: '\n' :: rest)
  | c :: rest => if isControl c then none else commentRest rest

/-- Skip a comment, if there is one. -/
def skipComment : List Char → Option (List Char)
  | '#' :: rest => commentRest rest
  | cs => some cs

/-- Skip blanks, line ends and comments. A round of the loop skips the blanks of one line and what ends it;
    one round more than there are characters is always enough. -/
def skipLines : Nat → List Char → Option (List Char)
  | 0, cs => some cs
  | fuel + 1, cs => do
    let cs ← skipComment (skipBlanks cs)
    match lineEnd cs with
    | some rest => skipLines fuel rest
    | none => some cs

/-- Skip blanks, line ends and comments. -/
def skipFiller (cs : List Char) : Option (List Char) := skipLines (cs.length + 1) cs

/-- The end of a statement: nothing but blanks and a comment before the line or the text ends. -/
def endOfStatement (cs : List Char) : Option (List Char) := do
  match ← skipComment (skipBlanks cs) with
  | [] => some []
  | cs => lineEnd cs

/-- Take one given character. -/
def take (c : Char) : List Char → Option (List Char)
  | d :: rest => if c = d then some rest else none
  | [] => none

/-! ## Quoted texts -/

/-- The value of a hexadecimal digit. -/
def hexValue? (c : Char) : Option Nat :=
  if '0' ≤ c ∧ c ≤ '9' then some (c.toNat - '0'.toNat)
  else if 'a' ≤ c ∧ c ≤ 'f' then some (c.toNat - 'a'.toNat + 10)
  else if 'A' ≤ c ∧ c ≤ 'F' then some (c.toNat - 'A'.toNat + 10)
  else none

/-- The character with the code that hexadecimal digits give, if there is one. -/
def codePoint (digits : List Char) : Option Char := do
  let n ← digits.foldlM (fun n c => do return 16 * n + (← hexValue? c)) 0
  if h : n.isValidChar then some (Char.ofNatAux n h) else none

/-- The character that an escape of one letter stands for. -/
def simpleEscape : Char → Option Char
  | 'b' => some '\x08'
  | 't' => some '\t'
  | 'n' => some '\n'
  | 'f' => some '\x0c'
  | 'r' => some '\r'
  | 'e' => some '\x1b'
  | '"' => some '"'
  | '\\' => some '\\'
  | _ => none

/-- Put a character in front of what a scanner of characters has found. -/
def prepend (c : Char) (found : Option (List Char × List Char)) : Option (List Char × List Char) :=
  found.map fun (cs, rest) => (c :: cs, rest)

/-- The rest of a text between quotes, with escapes. -/
def basicRest : Scan (List Char)
  | [] => none
  | '"' :: rest => some ([], rest)
  | '\\' :: 'x' :: a :: b :: rest => do prepend (← codePoint [a, b]) (basicRest rest)
  | '\\' :: 'u' :: a :: b :: c :: d :: rest => do prepend (← codePoint [a, b, c, d]) (basicRest rest)
  | '\\' :: 'U' :: a :: b :: c :: d :: e :: f :: g :: h :: rest => do
    prepend (← codePoint [a, b, c, d, e, f, g, h]) (basicRest rest)
  | '\\' :: c :: rest => do prepend (← simpleEscape c) (basicRest rest)
  | c :: rest => if isControl c then none else prepend c (basicRest rest)

/-- The rest of a text between apostrophes. -/
def literalRest : Scan (List Char)
  | [] => none
  | '\'' :: rest => some ([], rest)
  | c :: rest => if isControl c then none else prepend c (literalRest rest)

/-- The end of a block: three to five of its quotes, of which the last three close it. -/
def blockEnd (quote : Char) : Scan (List Char)
  | a :: b :: c :: rest =>
    if a = quote ∧ b = quote ∧ c = quote then
      match rest with
      | d :: e :: more =>
        if d = quote then
          if e = quote then some ([quote, quote], more) else some ([quote], e :: more)
        else some ([], rest)
      | [d] => if d = quote then some ([quote], []) else some ([], rest)
      | [] => some ([], [])
    else none
  | _ => none

/-- Whether nothing but blanks comes before a line end. -/
def endsLine (cs : List Char) : Bool := (lineEnd (skipBlanks cs)).isSome

/-- The rest of a block between apostrophes. -/
def literalBlockRest : Scan (List Char)
  | [] => none
  | '\r' :: '\n' :: rest => prepend '\r' (prepend '\n' (literalBlockRest rest))
  | c :: rest =>
    match blockEnd '\'' (c :: rest) with
    | some found => some found
    | none => if isControl c && c != '\n' then none else prepend c (literalBlockRest rest)

/-- The rest of a block between quotes, with escapes. After an escaped line end, white space is dropped up to
    the next character; `dropping` says that this is going on. -/
def basicBlockRest (dropping : Bool) : Scan (List Char)
  | [] => none
  | '\r' :: '\n' :: rest =>
    if dropping then basicBlockRest true rest
    else prepend '\r' (prepend '\n' (basicBlockRest false rest))
  | '\\' :: 'x' :: a :: b :: rest => do prepend (← codePoint [a, b]) (basicBlockRest false rest)
  | '\\' :: 'u' :: a :: b :: c :: d :: rest => do
    prepend (← codePoint [a, b, c, d]) (basicBlockRest false rest)
  | '\\' :: 'U' :: a :: b :: c :: d :: e :: f :: g :: h :: rest => do
    prepend (← codePoint [a, b, c, d, e, f, g, h]) (basicBlockRest false rest)
  | '\\' :: c :: rest =>
    match simpleEscape c with
    | some e => prepend e (basicBlockRest false rest)
    | none => if endsLine (c :: rest) then basicBlockRest true (c :: rest) else none
  | c :: rest =>
    if dropping && (isBlank c || c == '\n') then basicBlockRest true rest
    else
      match blockEnd '"' (c :: rest) with
      | some found => some found
      | none => if isControl c && c != '\n' then none else prepend c (basicBlockRest false rest)

/-- A block's text does not begin with the line end after its opening quotes. -/
def dropFirstLineEnd (cs : List Char) : List Char := (lineEnd cs).getD cs

/-- A quoted text on one line. -/
def lineText : Scan (List Char)
  | '"' :: rest => basicRest rest
  | '\'' :: rest => literalRest rest
  | _ => none

/-- A quoted text in any of its forms. -/
def quotedText : Scan (List Char)
  | '"' :: '"' :: '"' :: rest => basicBlockRest false (dropFirstLineEnd rest)
  | '\'' :: '\'' :: '\'' :: rest => literalBlockRest (dropFirstLineEnd rest)
  | cs => lineText cs

/-! ## Keys -/

/-- How deeply values may be nested, by brackets or by the parts of one key. -/
def maxDepth : Nat := 80

/-- Characters of a bare key. -/
def isBareKeyChar (c : Char) : Bool :=
  ('a' ≤ c && c ≤ 'z') || ('A' ≤ c && c ≤ 'Z') || ('0' ≤ c && c ≤ '9') || c == '-' || c == '_'

/-- A bare key. -/
def bareKey (cs : List Char) : Option (List Char × List Char) :=
  let key := cs.takeWhile isBareKeyChar
  if key.isEmpty then none else some (key, cs.drop key.length)

/-- A key without dots. -/
def simpleKey (cs : List Char) : Option (String × List Char) :=
  match cs with
  | '"' :: '"' :: '"' :: _ => none
  | '\'' :: '\'' :: '\'' :: _ => none
  | '"' :: _ => (lineText cs).map fun (k, rest) => (String.ofList k, rest)
  | '\'' :: _ => (lineText cs).map fun (k, rest) => (String.ofList k, rest)
  | _ => (bareKey cs).map fun (k, rest) => (String.ofList k, rest)

/-- The parts of a dotted key after its first one. Every round takes a dot. -/
def keyRest : Nat → List Char → Option (List String × List Char)
  | 0, _ => none
  | fuel + 1, cs =>
    match skipBlanks cs with
    | '.' :: rest => do
      let (k, rest) ← simpleKey (skipBlanks rest)
      let (ks, rest) ← keyRest fuel rest
      return (k :: ks, rest)
    | cs => some ([], cs)

/-- A dotted key and the blanks around it: its parts but the last, and the last. -/
def key (cs : List Char) : Option (List String × String × List Char) := do
  let (k, rest) ← simpleKey (skipBlanks cs)
  let (ks, rest) ← keyRest (rest.length + 1) rest
  guard (ks.length < maxDepth)
  return ((k :: ks).dropLast, (k :: ks).getLast (by simp), rest)

end Kanban.Toml
