import RemoteJobs.Client.Session

/-!
# Clients on a local socket

The thread of the socket reads the stream byte by byte and reports the frames
one after the other. It stops at the end of the stream and at a frame that is
too long, which it reports as well, and when the client disconnects. A frame that
is reported is handled while the thread waits; once it has stopped, the slots are
closed.
-/

namespace RemoteJobs.Client

variable {N : Type}

/-- Opens a client on a socket, where `place` says what is at a path. -/
def connectSocket (plan : Plan) (directory : String) (notes : N)
    (place : String → Socket.Place) :
    Except Failure (Client Socket N) :=
  connect plan directory notes fun settings endpoint =>
    match Socket.obstacle? place endpoint.path with
    | none => .ok { limit := settings.maxFrame }
    | some why => .error (.connection s!"Cannot connect to {endpoint.path}: {why.message}")

/-- Hands on a payload. -/
def handOn (c : Client Socket N) (payload : Bytes) : Client Socket N :=
  let c := c.withLink fun k => { k with handling := true }
  withLink (Inbox.handle c payload) fun k => { k with handling := false }

/-- Hears of what the thread reports. -/
def hear (c : Client Socket N) : Socket.Report → Client Socket N
  | .frame payload => c.handOn payload
  | .closed reason => Inbox.hangUp (c.tell (reason.toList.map .readFailed))

/-- Lets the thread take a step, and hears of what it reports. -/
def follow (c : Client Socket N) (step : Socket → Option Socket.Report × Socket) :
    Client Socket N :=
  let (report, k) := step c.session.link
  report.toList.foldl hear (c.withLink fun _ => k)

/-- Reads a byte of the stream. -/
def receiveByte (c : Client Socket N) (b : UInt8) : Client Socket N := c.follow (·.take b)

/-- Reads bytes of the stream. -/
def receive (c : Client Socket N) (s : Bytes) : Client Socket N := s.foldl receiveByte c

/-- The stream ends. -/
def endStream (c : Client Socket N) : Client Socket N := c.follow Socket.finish

end RemoteJobs.Client
