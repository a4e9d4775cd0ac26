import RemoteJobs.Failure

/-!
# Channels in memory

A channel joins a client and a server inside one program. The client's frames
wait in a queue until the server takes them; the server's frames go straight to
the sink that the client has connected, if there is one. After the channel is
shut nothing more is sent, but what waits in the queue can still be taken.
-/

namespace RemoteJobs

/-- A channel to whose client side a sink of type `κ` can be connected. -/
structure Channel (κ : Type) where
  /-- The client's frames that the server has not taken. -/
  queue : List Bytes := []
  closed : Bool := false
  /-- Whether the client's frames get lost. -/
  failing : Bool := false
  sink : Option κ := none

namespace Channel

variable {κ : Type}

/-- Connects a sink. -/
def connect (c : Channel κ) (k : κ) : Except Failure (Channel κ) :=
  if c.closed then .error (.connection "In-memory channel is closed")
  else if c.sink.isSome then .error (.connection "In-memory channel is already connected")
  else .ok { c with sink := some k }

/-- Sends a frame to the server. -/
def send (c : Channel κ) (frame : Bytes) : Except Failure (Channel κ) :=
  if c.closed then .error .connectionClosed
  else if c.failing then .error (.connection "Send failed: injected failure")
  else .ok { c with queue := c.queue ++ [frame] }

/-- Shuts the channel from either side, and gives the sink that is to be told
of it. -/
def shut (c : Channel κ) : Option κ × Channel κ :=
  if c.closed then (none, c) else (c.sink, { c with closed := true, sink := none })

/-- Takes the frame that waits longest. -/
def take (c : Channel κ) : Option Bytes × Channel κ :=
  match c.queue with
  | [] => (none, c)
  | frame :: r => (some frame, { c with queue := r })

/-- What a server that waits for a frame finds. -/
inductive Finding where
  | frame (bytes : Bytes)
  /-- No frame is there, and the channel is shut or the time is over. -/
  | nothing
  /-- A frame may still come. -/
  | pending

/-- One look of a server that waits for a frame; `expired` if its time is over.
A frame that is there is taken even then. -/
def look (c : Channel κ) (expired : Bool) : Finding × Channel κ :=
  match c.take with
  | (some frame, c) => (.frame frame, c)
  | (none, c) => (if c.closed || expired then .nothing else .pending, c)

end Channel

end RemoteJobs
