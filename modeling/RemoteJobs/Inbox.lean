import RemoteJobs.Envelope.Inbound
import RemoteJobs.Observer
import RemoteJobs.Slots

/-!
# The inbox

Every frame from the server goes to one of two places: a reply fills its slot,
a notification goes to the observers. A frame that is neither is dropped with a
notice, and the frames behind it are handled all the same. When the connection
is gone the slots are closed.
-/

namespace RemoteJobs

/-- What the observers of a connection can reach: its slots, and `memory` for
everything else. -/
structure Desk (μ : Type) where
  slots : Slots
  memory : μ

namespace Inbox

variable {μ : Type}

/-- Applies a step of the slots, and tells what it has to tell. -/
def withSlots {α : Type} (c : Scene (Desk μ)) (step : Slots → α × Slots) (notices : α → List Notice) :
    α × Scene (Desk μ) :=
  let (a, slots) := step c.state.slots
  (a, Scene.tell { c with state := { c.state with slots } } (notices a))

/-- Hands a reply to the call that waits for it. -/
def fill (c : Scene (Desk μ)) (r : Reply) : Slots.Filling × Scene (Desk μ) :=
  withSlots c (·.fill r) Slots.Filling.notices

/-- Handles a frame. -/
def handle (c : Scene (Desk μ)) (frame : Bytes) : Scene (Desk μ) :=
  match Inbound.decode frame with
  | .ok (.reply r) => (fill c r).2
  | .ok (.notification n) => (c.announce n).2
  | .error m => c.tell [.frameDropped m.failure frame.length]

/-- The connection is gone. -/
def hangUp (c : Scene (Desk μ)) : Scene (Desk μ) :=
  (withSlots c Slots.close fun _ => []).2

end Inbox

end RemoteJobs
