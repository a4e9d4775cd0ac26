import RemoteJobs.Failure

/-!
# Requests

A request calls a method of the server under a packet id. On the wire its
members stand in the order of the fields.
-/

namespace RemoteJobs

/-- The version of the protocol that every envelope names. -/
def protocolVersion : String := "2.0"

structure Request where
  version : String
  id : PacketId
  method : String
  params : Json

namespace Request

def call (id : PacketId) (method : String) (params : Json) : Request :=
  ⟨protocolVersion, id, method, params⟩

def shape : Schema.Shape := ⟨"Request", 4⟩

def decode : Schema.Decoder Request :=
  Schema.record shape
    (Request.mk
      <$> Schema.required "jsonrpc" 0 .string
      <*> Schema.required "id" 1 PacketId.decode
      <*> Schema.required "method" 2 .string
      <*> Schema.optional "params" 3 .null .any)

def members (r : Request) : List (String × Json) :=
  [("jsonrpc", .str r.version), ("id", r.id.toJson), ("method", .str r.method),
    ("params", r.params)]

def toJson (r : Request) : Json := .object r.members

def bytes (r : Request) : Bytes := (Json.obj r.members).bytes

end Request

end RemoteJobs
