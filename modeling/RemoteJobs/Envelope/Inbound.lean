import RemoteJobs.Envelope.Reply
import RemoteJobs.Json.Reader

/-!
# What comes in

A frame from the server holds a reply if it has an id that is not `null`, and a
notification otherwise. The version of the protocol may be left out, but not be
another one. A reply has a result or an error, not both; a notification has a
method.
-/

namespace RemoteJobs

/-- Why a frame is neither a reply nor a notification. -/
inductive Malformation where
  | text (e : Json.TextError)
  | notObject
  | version (v : Json)
  | invalidId (v : Json)
  | invalidError (id : PacketId) (m : Schema.Mismatch)
  | resultAndError (id : PacketId)
  | request (id : PacketId)
  | neitherResultNorError (id : PacketId)
  | methodNotString
  | errorWithoutId
  | neitherIdNorMethod

namespace Malformation

def message : Malformation → String
  | text e => "invalid JSON: " ++ e.message
  | notObject => "envelope is not a JSON object"
  | version v => "unsupported jsonrpc version " ++ v.text
  | invalidId v => "invalid packet id " ++ v.text
  | invalidError id m => s!"invalid error object for {id.text}: {m.message}"
  | resultAndError id => s!"reply {id.text} carries both result and error"
  | request id => s!"unexpected request {id.text} from server"
  | neitherResultNorError id => s!"reply {id.text} carries neither result nor error"
  | methodNotString => "method is not a string"
  | errorWithoutId => "error reply without packet id"
  | neitherIdNorMethod => "frame has neither id nor method"

def failure (m : Malformation) : Failure := .malformedFrame m.message

end Malformation

inductive Inbound where
  | reply (r : Reply)
  | notification (n : Notification)

namespace Inbound

/-- The id of a reply. -/
def packetId? : Json → Option PacketId
  | .int n => PacketId.ofNat? n.toNat
  | _ => none

def ofReply (m : Keyed Json) (id : PacketId) : Except Malformation Reply :=
  match m.get? "result", m.get? "error" with
  | some v, none => .ok ⟨id, .ok v⟩
  | none, some e =>
    match RemoteError.decode e with
    | .ok e => .ok ⟨id, .error e⟩
    | .error m => .error (.invalidError id m)
  | some _, some _ => .error (.resultAndError id)
  | none, none =>
    if (m.get? "method").isSome then .error (.request id) else .error (.neitherResultNorError id)

def ofNotification (m : Keyed Json) : Except Malformation Notification :=
  match m.get? "method" with
  | some (.str method) => .ok ⟨method, (m.get? "params").getD .null⟩
  | some _ => .error .methodNotString
  | none =>
    if (m.get? "error").isSome then .error .errorWithoutId else .error .neitherIdNorMethod

/-- Whether the members name no other version of the protocol. -/
def checkVersion (m : Keyed Json) : Except Malformation Unit :=
  match m.get? "jsonrpc" with
  | none => .ok ()
  | some (.str t) => if t = protocolVersion then .ok () else .error (.version (.str t))
  | some v => .error (.version v)

def ofMembers (m : Keyed Json) : Except Malformation Inbound := do
  checkVersion m
  match m.get? "id" with
  | none | some .null => return .notification (← ofNotification m)
  | some v =>
    match packetId? v with
    | some id => return .reply (← ofReply m id)
    | none => .error (.invalidId v)

def ofJson : Json → Except Malformation Inbound
  | .obj m => ofMembers m
  | _ => .error .notObject

/-- What a frame holds. -/
def decode (frame : Bytes) : Except Malformation Inbound :=
  match Json.parse frame with
  | .ok v => ofJson v
  | .error e => .error (.text e)

end Inbound

end RemoteJobs
