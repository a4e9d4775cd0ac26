import RemoteJobs.Client.Session

/-!
# Clients on a channel in memory

The server's side of the channel hands its frames to the client directly.
-/

namespace RemoteJobs.Client

variable {N : Type}

/-- Opens a client on a new channel. -/
def connectMemory (plan : Plan) (directory : String) (notes : N) :
    Except Failure (Client (Channel Unit) N) :=
  connect plan directory notes fun _ _ => Channel.connect {} ()

/-- Hands a frame to the client, if it still listens. -/
def inject (c : Client (Channel Unit) N) (frame : Bytes) : Bool × Client (Channel Unit) N :=
  if c.session.link.sink.isSome then (true, Inbox.handle c frame) else (false, c)

/-- The server hangs up. -/
def hangUpMemory (c : Client (Channel Unit) N) : Client (Channel Unit) N :=
  let (sink, _) := c.session.link.shut
  let c := c.withLink fun k => k.shut.2
  if sink.isSome then Inbox.hangUp c else c

end RemoteJobs.Client
