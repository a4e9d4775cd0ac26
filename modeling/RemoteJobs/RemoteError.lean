import RemoteJobs.Schema.Record

/-!
# Errors of the server

The server answers a request that it cannot serve with an error object: a code,
a message and, at will, some data.
-/

namespace RemoteJobs

structure RemoteError where
  code : Int64
  message : String
  data : Option Json

namespace RemoteError

def reading : Schema.Reading RemoteError :=
  RemoteError.mk
    <$> Schema.required "code" 0 .signed64
    <*> Schema.optional "message" 1 "" .string
    <*> Schema.optional "data" 2 none (.nullable .any)

/-- Data that is `null` is no data. -/
def decode : Schema.Decoder RemoteError := Schema.record ⟨"RpcError", 3⟩ reading

def members (e : RemoteError) : List (String × Json) :=
  [("code", .int e.code.toInt), ("message", .str e.message)] ++ Schema.present "data" id e.data

def toJson (e : RemoteError) : Json := .object e.members

end RemoteError

/-- The codes that every server of the protocol knows. -/
inductive StandardCode where
  | parseError
  | invalidRequest
  | methodNotFound
  | invalidParams
  | internalError

def StandardCode.code : StandardCode → Int64
  | .parseError => -32700
  | .invalidRequest => -32600
  | .methodNotFound => -32601
  | .invalidParams => -32602
  | .internalError => -32603

end RemoteJobs
