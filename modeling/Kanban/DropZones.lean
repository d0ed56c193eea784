import Kanban.Dict

/-!
# `DropZones` — where cards may be dropped

## Contents
- `DropZones`: containers with the callback that asks for a confirmation of a drop on them.
- `callback?_register`, `isRegistered_iff`: who is asked after a callback was set.
-/

namespace Kanban

/-- The containers that accept drops, each with its callback `κ`. -/
structure DropZones (κ : Type) where
  zones : Dict κ

namespace DropZones

variable {κ : Type}

/-- No container accepts drops. -/
def empty : DropZones κ := ⟨Dict.empty⟩

/-- Set the callback of a container. Without a callback it accepts no drops. -/
def register (z : DropZones κ) (container : String) : Option κ → DropZones κ
  | some callback => ⟨z.zones.insert container callback⟩
  | none => ⟨z.zones.erase container⟩

/-- The callback of a container. -/
def callback? (z : DropZones κ) (container : String) : Option κ := z.zones.get? container

/-- Whether a container accepts drops. -/
def isRegistered (z : DropZones κ) (container : String) : Bool := z.zones.contains container

/-- How many containers accept drops. -/
def size (z : DropZones κ) : Nat := z.zones.size

/-- Whether no container accepts drops. -/
def isEmpty (z : DropZones κ) : Bool := z.size = 0

theorem callback?_register (z : DropZones κ) (container : String) (callback : Option κ) (other : String) :
    (z.register container callback).callback? other =
      if other = container then callback else z.callback? other := by
  cases callback with
  | some callback => exact Dict.get?_insert ..
  | none => exact Dict.get?_erase ..

theorem isRegistered_iff {z : DropZones κ} {container : String} :
    z.isRegistered container = true ↔ ∃ callback, z.callback? container = some callback :=
  Option.isSome_iff_exists

end DropZones

end Kanban
