import RemoteJobs.Inbox
import RemoteJobs.Link
import RemoteJobs.Settings

/-!
# Sessions

A session is what a client keeps beside its slots: where it is connected, what
it has been told to do, the ids it has left and its link. `notes` belong to the
program that uses the client; the observers of the client reach them as they
reach the session itself.
-/

namespace RemoteJobs

structure Session (L N : Type) where
  endpoint : Endpoint
  settings : Settings
  /-- Whether the client has not been disconnected by its own side. -/
  connected : Bool := true
  ids : IdSupply := .fresh
  link : L
  notes : N

namespace Session

variable {L N : Type}

/-- The client gives up the connection: all calls that wait lose their slots. -/
def disconnect [Link L] (d : Desk (Session L N)) : Desk (Session L N) :=
  if d.memory.connected then
    { slots := d.slots.close.2
      memory := { d.memory with connected := false, link := Link.shut d.memory.link } }
  else d

end Session

/-- A client: its session, its slots and its observers. -/
abbrev Client (L N : Type) := Scene (Desk (Session L N))

namespace Client

variable {L N : Type}

def session (c : Client L N) : Session L N := c.state.memory

/-- Changes the link. -/
def withLink (c : Client L N) (f : L → L) : Client L N :=
  { c with state := { c.state with memory := { c.session with link := f c.session.link } } }

/-- Opens a client. `reach` makes the link to the endpoint. -/
def connect (plan : Plan) (directory : String) (notes : N)
    (reach : Settings → Endpoint → Except Failure L) : Except Failure (Client L N) := do
  let endpoint ← plan.resolve directory
  let settings := plan.settings
  let link ← reach settings endpoint
  return { state := ⟨.empty settings.maxPending, { endpoint, settings, link, notes }⟩ }

def disconnect [Link L] (c : Client L N) : Client L N :=
  { c with state := Session.disconnect c.state }

/-- Whether calls can be made: neither side has given up the connection. -/
def isConnected (c : Client L N) : Bool := c.session.connected && !c.state.slots.closed

/-- How many calls wait. -/
def pendingCount (c : Client L N) : Nat := c.state.slots.size

def describe (c : Client L N) : String :=
  "Client \x7b endpoint: " ++ c.session.endpoint.describe
    ++ ", connected: " ++ (if c.isConnected then "true" else "false")
    ++ ", pending: " ++ Decimal.natText c.pendingCount
    ++ ", callbacks: " ++ Decimal.natText c.observers.length ++ ", .. \x7d"

end Client

end RemoteJobs
