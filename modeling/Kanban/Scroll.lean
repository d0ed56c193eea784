import Kanban.Bounds

/-!
# `Scroll` — following a dragged card

While a card is dragged, its container scrolls so that the dragged helper stays in sight. The helper lies on
the scrolled content: scrolling to the left moves it to the right.

## Contents
- `Scroll.follow`: the scroll offset that keeps a helper in sight.
- `Viewport`: a scrolling container.
-/

namespace Kanban

namespace Scroll

variable {α : Type} [Coordinate α]

open Coordinate

/-- The greatest scroll offset of a container over its content. -/
def limit (container : Bounds α) (contentWidth : α) : α := larger (contentWidth - container.width) 0

/-- Whether the greatest scroll offset is one: defined and not below zero. Nothing can be brought between
    zero and any other. -/
def ordered (container : Bounds α) (contentWidth : α) : Bool :=
  !undefined (limit container contentWidth) && !below (limit container contentWidth) 0

/-- Scroll to the left as far as the helper sticks out there and the content goes. The helper moves along. -/
def followLeft (container helper : Bounds α) (offset : α) : Bounds α × α :=
  if below helper.left container.left then
    let scrolled := larger (offset - (container.left - helper.left)) 0
    (helper.shifted (offset - scrolled), scrolled)
  else (helper, offset)

/-- Scroll to the right as far as the helper sticks out there and the content goes. -/
def followRight (container helper : Bounds α) (offset greatest : α) : α :=
  if below container.right helper.right then
    smaller (offset + (helper.right - container.right)) greatest
  else offset

/-- The scroll offset that keeps a helper in sight. The right edge is looked at after the correction for
    the left one, with the helper where that correction put it. -/
def follow (container helper : Bounds α) (offset contentWidth : α) : α :=
  let greatest := limit container contentWidth
  let (helper, offset) := followLeft container helper offset
  clamp (followRight container helper offset greatest) 0 greatest

end Scroll

/-- A scrolling container. -/
structure Viewport where
  bounds : Bounds Float
  contentWidth : Float
  offset : Float

end Kanban
