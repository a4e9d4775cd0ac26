import RemoteJobs.PacketId
import RemoteJobs.RemoteError
import RemoteJobs.Span
import RemoteJobs.Json.Fault

/-!
# Failures

Everything that can keep an operation of the client from its result. A call
that runs out of time is no failure by itself; `Outcome.result` makes one of
it.
-/

namespace RemoteJobs

/-- Why JSON was not understood: the text is none, or the value is not the one
wanted. -/
inductive Json.Trouble where
  | text (e : Json.TextError)
  | value (m : Schema.Mismatch)

def Json.Trouble.message : Json.Trouble → String
  | .text e => e.message
  | .value m => m.message

inductive Failure where
  | config (message : String)
  | connection (message : String)
  | connectionTimeout (millis : Nat)
  | connectionClosed
  | remote (error : RemoteError)
  | protocol (message : String)
  | malformedFrame (message : String)
  | invalidCallback (message : String)
  | requestTimeout (id : PacketId) (millis : Nat)
  | io (message : String)
  | json (trouble : Json.Trouble)

namespace Failure

def message : Failure → String
  | config m => "Configuration error: " ++ m
  | connection m => "Connection failed: " ++ m
  | connectionTimeout ms => s!"Connection timeout after {Decimal.natText ms}ms"
  | connectionClosed => "Connection closed"
  | remote e => s!"Remote error {Decimal.intText e.code.toInt}: {e.message}"
  | protocol m => "Protocol error: " ++ m
  | malformedFrame m => "Malformed frame: " ++ m
  | invalidCallback m => "Invalid callback: " ++ m
  | requestTimeout id ms => s!"Request {id.text} timed out after {Decimal.natText ms}ms"
  | io m => "IO error: " ++ m
  | json t => "JSON error: " ++ t.message

def isTimeout : Failure → Bool
  | connectionTimeout _ | requestTimeout _ _ => true
  | _ => false

def isConnection : Failure → Bool
  | connection _ | connectionTimeout _ | connectionClosed => true
  | _ => false

def isRemote : Failure → Bool
  | remote _ => true
  | _ => false

def remoteCode : Failure → Option Int64
  | remote e => some e.code
  | _ => none

end Failure

end RemoteJobs
