import RemoteJobs.Envelope.Request

/-!
# Replies and notifications

The server sends two kinds of envelopes. A reply carries the packet id of a
request and either its result or an error; a notification carries no id and
names an event.
-/

namespace RemoteJobs

structure Reply where
  id : PacketId
  answer : Except RemoteError Json

namespace Reply

def isError (r : Reply) : Bool :=
  match r.answer with
  | .ok _ => false
  | .error _ => true

def result (r : Reply) : Except Failure Json :=
  match r.answer with
  | .ok v => .ok v
  | .error e => .error (.remote e)

/-- The envelope in which a server sends a reply. -/
def envelope (r : Reply) : Json :=
  .object [("jsonrpc", .str protocolVersion), ("id", r.id.toJson),
    match r.answer with
    | .ok v => ("result", v)
    | .error e => ("error", e.toJson)]

end Reply

structure Notification where
  method : String
  params : Json

namespace Notification

def decode : Schema.Decoder Notification :=
  Schema.record ⟨"Notification", 2⟩
    (Notification.mk
      <$> Schema.required "method" 0 .string
      <*> Schema.optional "params" 1 .null .any)

def members (n : Notification) : List (String × Json) :=
  [("method", .str n.method), ("params", n.params)]

def toJson (n : Notification) : Json := .object n.members

/-- The envelope in which a server sends a notification. -/
def envelope (n : Notification) : Json :=
  .object (("jsonrpc", .str protocolVersion) :: n.members)

/-- The value that the params hold. -/
def parse {α : Type} (n : Notification) (d : Schema.Decoder α) : Except Failure α :=
  match d n.params with
  | .ok a => .ok a
  | .error m => .error (.protocol s!"Ill-formed {n.method} notification: {m.message}")

end Notification

end RemoteJobs
