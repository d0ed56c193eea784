/-!
# `Scenario.Template` — references to the environment

A board file may refer to variables of the environment as `${NAME}`. A reference begins with `$` and an
opening brace and reaches to the next closing brace; its name is everything in between and not empty.

## Contents
- `Template.fill`: the text with its references replaced.
- `Template.names`: the variables that it refers to.
-/

namespace Kanban.Template

/-- The name of a reference and what follows it, given the text after its opening brace. -/
def splitName (cs : List Char) : Option (List Char × List Char) :=
  let name := cs.takeWhile (· ≠ '\x7d')
  match cs.drop name.length with
  | _ :: rest => if name.isEmpty then none else some (name, rest)
  | [] => none

theorem length_of_splitName {cs name rest : List Char} (h : splitName cs = some (name, rest)) :
    rest.length < cs.length := by
  simp only [splitName] at h
  split at h
  · rename_i c tail hdrop
    split at h
    · simp at h
    · have hlen := congrArg List.length hdrop
      simp only [List.length_drop, List.length_cons] at hlen
      simp only [Option.some.injEq, Prod.mk.injEq] at h
      obtain ⟨-, rfl⟩ := h
      omega
  · simp at h

/-- What a reference stands for: the value of its variable, or itself if there is none. -/
def reference (env : String → Option String) (name : List Char) : List Char :=
  match env (String.ofList name) with
  | some value => value.toList
  | none => '$' :: '\x7b' :: name ++ ['\x7d']

/-- The text with its references replaced, from left to right. What a variable holds is not looked at
    again. -/
def fillChars (env : String → Option String) : List Char → List Char
  | [] => []
  | '$' :: '\x7b' :: cs =>
    match _h : splitName cs with
    | some (name, rest) => reference env name ++ fillChars env rest
    | none => '$' :: fillChars env ('\x7b' :: cs)
  | c :: cs => c :: fillChars env cs
termination_by cs => cs.length
decreasing_by
  · have := length_of_splitName _h
    simp only [List.length_cons]
    omega
  · simp
  · simp

/-- The text with its references replaced by the values of variables; those without value stay. -/
def fill (env : String → Option String) (text : String) : String :=
  String.ofList (fillChars env text.toList)

/-- The variables that a text refers to, from left to right. -/
def namesIn : List Char → List String
  | [] => []
  | '$' :: '\x7b' :: cs =>
    match _h : splitName cs with
    | some (name, rest) => String.ofList name :: namesIn rest
    | none => namesIn ('\x7b' :: cs)
  | _ :: cs => namesIn cs
termination_by cs => cs.length
decreasing_by
  · have := length_of_splitName _h
    simp only [List.length_cons]
    omega
  · simp
  · simp

/-- The variables that a text refers to. -/
def names (text : String) : List String := namesIn text.toList

end Kanban.Template
