import RemoteJobs.Channel
import RemoteJobs.Frame.Reader
import RemoteJobs.Text.Utf8

/-!
# Links

A link carries the frames of a client to its server. A link is a channel in
memory or a local socket; a client makes no difference between them. A frame
that cannot be sent leaves the link as it was.
-/

namespace RemoteJobs

class Link (L : Type) where
  send : L → Bytes → Except Failure L
  shut : L → L

instance {κ : Type} : Link (Channel κ) where
  send := Channel.send
  shut c := c.shut.2

/-- A local socket. Its thread reads frames and hands them on, and it is also
the one that writes, so a frame that is sent while it hands one on would wait
for ever.

The server may take no more bytes although it still sends some. A frame that is
written then fails, and those of its bytes that were taken before are no
payload. -/
structure Socket where
  /-- The largest payload that is read. -/
  limit : Nat
  reader : Frame.Reader := .start
  /-- Whether the thread still reads and writes. -/
  running : Bool := true
  /-- Whether the thread hands on a frame. -/
  handling : Bool := false
  /-- Why the server takes no more bytes, if it takes none. -/
  broken : Option String := none
  /-- The payloads that have been written. -/
  sent : List Bytes := []

namespace Socket

/-- What is found where a client looks for its server. -/
inductive Place where
  | server
  /-- Something else, such as a directory. -/
  | occupied
  | vacant
  deriving DecidableEq

/-- Why no socket can be opened. -/
inductive Obstacle where
  | nullInside
  | longPath
  | longName
  | refused
  | absent
  deriving DecidableEq

def Obstacle.message : Obstacle → String
  | nullInside => "paths must not contain interior null bytes"
  | longPath => "path must be shorter than SUN_LEN"
  | longName => "abstract socket name must be shorter than SUN_LEN"
  | refused => "Connection refused (os error 111)"
  | absent => "No such file or directory (os error 2)"

/-- Why no socket can be opened at a path. A path that starts with a null
character is an abstract name, for which there is no file: it has at most 108
bytes, of any kind. Any other path holds no null character and has fewer than
108 bytes. -/
def obstacle? (place : String → Place) (path : String) : Option Obstacle :=
  let size := (Utf8.encode path).length
  if path.toList.head? = some '\x00' then
    if 108 < size then some .longName
    else if place path = .server then none
    else some .refused
  else if path.toList.contains '\x00' then some .nullInside
  else if 108 ≤ size then some .longPath
  else
    match place path with
    | .server => none
    | .occupied => some .refused
    | .vacant => some .absent

/-! ## Writing -/

/-- Writes a frame, first its header. -/
def write (s : Socket) (frame : Bytes) : Except Failure Socket :=
  match Frame.header frame.length, s.broken with
  | .error e, _ => .error e
  | .ok _, some trouble => .error (.io trouble)
  | .ok _, none => .ok { s with sent := s.sent ++ [frame] }

/-- Why a frame was not sent, where writing it has failed. -/
def unsent (e : Failure) : Failure := .connection s!"Send failed: {e.message}"

def send (s : Socket) (frame : Bytes) : Except Failure Socket :=
  if s.handling then
    .error (.protocol "Blocking sends are not allowed from the I/O thread")
  else if !s.running then .error .connectionClosed
  else (s.write frame).mapError unsent

instance : Link Socket where
  send := send
  shut s := { s with running := false }

/-! ## Reading -/

/-- What the thread tells its client. -/
inductive Report where
  | frame (payload : Bytes)
  /-- The thread has stopped, for a reason if something is wrong. -/
  | closed (reason : Option Failure)

/-- The thread takes a byte of the stream, and stops where its reader stops. -/
def take (s : Socket) (b : UInt8) : Option Report × Socket :=
  if s.running then
    match s.reader.take s.limit b with
    | (.stopped reason, _) =>
      (some (.closed (some reason)), { s with reader := .stopped reason, running := false })
    | (reader, payload) => (payload.map .frame, { s with reader })
  else (none, s)

/-- The stream ends. -/
def finish (s : Socket) : Option Report × Socket :=
  if s.running then (some (.closed s.reader.close), { s with running := false }) else (none, s)

end Socket

end RemoteJobs
