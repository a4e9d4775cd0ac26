import RemoteJobs.Proofs.Observer
import RemoteJobs.Proofs.Slots

/-!
# What a frame does to the desk

A frame with a reply fills a slot, one with a notification lets the observers
act, and any other leaves the desk as it is. To the call with a given id only
the replies with that id matter: `Inbound.replyTo` picks them out, and
`find?_handle` says that a frame does nothing else to its slot, as long as the
observers leave the slots alone.
-/

namespace RemoteJobs

theorem Reply.to?_eq_some_iff {r r' : Reply} {id : PacketId} :
    r.to? id = some r' ↔ r = r' ∧ r.id = id := by
  unfold Reply.to?
  split
  · next h => simp [h]
  · next h => simp [h]

/-- The reply to the call with this id that a frame holds. -/
def Inbound.replyTo (id : PacketId) (frame : Bytes) : Option Reply :=
  match Inbound.decode frame with
  | .ok (.reply r) => r.to? id
  | _ => none

theorem Inbound.replyTo_eq_some_iff {id : PacketId} {frame : Bytes} {r : Reply} :
    Inbound.replyTo id frame = some r ↔
      Inbound.decode frame = .ok (.reply r) ∧ r.id = id := by
  unfold Inbound.replyTo
  split
  · next r' h =>
      rw [Reply.to?_eq_some_iff, h]
      constructor
      · intro hex
        obtain ⟨rfl, hid⟩ := hex
        exact ⟨rfl, hid⟩
      · intro hex
        obtain ⟨he, hid⟩ := hex
        injection he with he
        injection he with he
        exact ⟨he, he ▸ hid⟩
  · next h =>
      constructor
      · intro hn
        cases hn
      · intro hex
        obtain ⟨he, -⟩ := hex
        exact absurd he (h r)

/-- The reply that a frame holds. -/
def Inbound.reply? (frame : Bytes) : Option Reply :=
  match Inbound.decode frame with
  | .ok (.reply r) => some r
  | _ => none

/-- The notification that a frame holds. -/
def Inbound.notification? (frame : Bytes) : Option Notification :=
  match Inbound.decode frame with
  | .ok (.notification n) => some n
  | _ => none

theorem Inbound.notification?_eq_some_iff {frame : Bytes} {n : Notification} :
    Inbound.notification? frame = some n ↔ Inbound.decode frame = .ok (.notification n) := by
  unfold Inbound.notification?
  split
  · next n' h =>
      rw [h]
      constructor
      · intro hn
        cases hn
        rfl
      · intro hn
        cases hn
        rfl
  · next h =>
      constructor
      · intro hn
        cases hn
      · intro hn
        exact absurd hn (h n)

namespace Inbox

variable {μ : Type} {c : Scene (Desk μ)} {frame : Bytes}

theorem handle_reply {r : Reply} (h : Inbound.decode frame = .ok (.reply r)) :
    handle c frame = (fill c r).2 := by
  rw [handle, h]

theorem handle_notification {n : Notification}
    (h : Inbound.decode frame = .ok (.notification n)) : handle c frame = (c.announce n).2 := by
  rw [handle, h]

theorem handle_malformed {m : Malformation} (h : Inbound.decode frame = .error m) :
    handle c frame = c.tell [.frameDropped m.failure frame.length] := by
  rw [handle, h]

theorem state_handle_reply {r : Reply} (h : Inbound.decode frame = .ok (.reply r)) :
    (handle c frame).state = { c.state with slots := (c.state.slots.fill r).2 } := by
  rw [handle_reply h]
  rfl

theorem state_handle_notification {n : Notification}
    (h : Inbound.decode frame = .ok (.notification n)) :
    (handle c frame).state = c.observers.foldl (fun d o => (o n).after d) c.state := by
  rw [handle_notification h]
  exact Scene.state_announce c n

theorem state_handle_malformed {m : Malformation} (h : Inbound.decode frame = .error m) :
    (handle c frame).state = c.state := by
  rw [handle_malformed h]
  rfl

theorem observers_handle_reply {r : Reply} (h : Inbound.decode frame = .ok (.reply r)) :
    (handle c frame).observers = c.observers := by
  rw [handle_reply h]
  rfl

theorem observers_handle_notification {n : Notification}
    (h : Inbound.decode frame = .ok (.notification n)) :
    (handle c frame).observers = c.observers ++ Observer.registered n c.observers c.state := by
  rw [handle_notification h]
  exact Scene.observers_announce c n

theorem observers_handle_malformed {m : Malformation} (h : Inbound.decode frame = .error m) :
    (handle c frame).observers = c.observers := by
  rw [handle_malformed h]
  rfl

theorem leaves_handle {α : Type} {p : Desk μ → α} (hc : c.Leaves p) (frame : Bytes) :
    (handle c frame).Leaves p := by
  cases h : Inbound.decode frame with
  | error m =>
      rw [Scene.Leaves, observers_handle_malformed h]
      exact hc
  | ok i =>
      cases i with
      | reply r =>
          rw [Scene.Leaves, observers_handle_reply h]
          exact hc
      | notification n =>
          rw [handle, h]
          exact (hc.announce n).2

theorem memory_handle {α : Type} {p : μ → α} (hc : c.Leaves fun d => p d.memory)
    (frame : Bytes) : p (handle c frame).state.memory = p c.state.memory := by
  cases h : Inbound.decode frame with
  | error m => rw [state_handle_malformed h]
  | ok i =>
      cases i with
      | reply r => rw [state_handle_reply h]
      | notification n =>
          rw [handle, h]
          exact (hc.announce n).1

theorem closed_handle (hc : c.Leaves Desk.slots) (frame : Bytes) :
    (handle c frame).state.slots.closed = c.state.slots.closed := by
  cases h : Inbound.decode frame with
  | error m => rw [state_handle_malformed h]
  | ok i =>
      cases i with
      | reply r =>
          rw [state_handle_reply h]
          exact Slots.closed_fill _ _
      | notification n =>
          rw [handle, h]
          rw [(hc.announce n).1]

/-- To the slot of an id a frame is nothing but the reply that it holds for
that id. -/
theorem find?_handle (hc : c.Leaves Desk.slots) (frame : Bytes) (id : PacketId) :
    (handle c frame).state.slots.find? id =
      (c.state.slots.find? id).map (·.or (Inbound.replyTo id frame)) := by
  cases h : Inbound.decode frame with
  | error m => rw [state_handle_malformed h, Inbound.replyTo, h, Slots.map_or_none]
  | ok i =>
      cases i with
      | reply r =>
          rw [state_handle_reply h, Inbound.replyTo, h]
          exact Slots.find?_fill _ _ _
      | notification n =>
          rw [Inbound.replyTo, h, Slots.map_or_none, handle, h]
          rw [(hc.announce n).1]

end Inbox

end RemoteJobs
