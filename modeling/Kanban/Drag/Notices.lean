import Kanban.Drag.Controller
import Kanban.Log.Line
import Kanban.Text.Basic

/-!
# `Drag.Notices` — what is said about a drag

## Contents
- One line for the start of a drag, for every way in which a release ends, and for what comes in between.
-/

namespace Kanban.Notice

open Log (Line)

/-- A drag has started. -/
def started (s : Session) : Line :=
  ⟨.info, .controller, s!"🖐️ Drag started: card {s.card} from {s.origin} (content width " ++
    Decimal.plain.write s.contentWidth ++ ")"⟩

/-- A release has ended without asking for a confirmation. -/
def ended (s : Session) : Ending → Line
  | .nowhere => ⟨.info, .controller, s!"↩️ Card {s.card} released without a drop target"⟩
  | .sameContainer column =>
    ⟨.info, .controller, s!"↩️ Card {s.card} released on its own column {column}"⟩
  | .zoneGone target =>
    ⟨.warn, .controller, s!"⚠️ Drop zone {target} was unregistered before release"⟩

/-- A release asks for a confirmation. -/
def asking {κ : Type} (p : Pending κ) : Line :=
  ⟨.info, .controller, s!"📥 Card {p.session.card} dropped on {p.target}; awaiting confirmation"⟩

/-- A wait has reached its limit. -/
def timedOut (limit : Nat) : Line :=
  ⟨.warn, .confirmation, "⏰ Confirmation not resolved within " ++ Text.duration limit⟩

/-- A confirmation inside a line. -/
def describe : Confirmation → String
  | .accepted => "Accepted"
  | .rejected => "Rejected"
  | .abandoned => "Abandoned"
  | .timedOut => "TimedOut"

/-- A wait is over, so many milliseconds after the drag started. -/
def concluded {κ : Type} (p : Pending κ) (elapsed : Nat) (c : Confirmation) : Line :=
  if c.isAccepted then
    ⟨.info, .controller, s!"✅ Move of card {p.session.card} to {p.target} confirmed after {elapsed}ms"⟩
  else
    ⟨.info, .controller, s!"❌ Move of card {p.session.card} to {p.target} not confirmed (" ++
      describe c ++ ")"⟩

end Kanban.Notice
