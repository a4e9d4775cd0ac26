import RemoteJobs.Endpoint

/-!
# Settings of a client

How long a client waits, how many requests it lets be open at once and how
large a frame it takes. A `Plan` adds the endpoint, and whether the link to the
server is one that the caller brings.
-/

namespace RemoteJobs

structure Settings where
  callTimeout : Span := .ofSeconds 30
  connectTimeout : Span := .ofSeconds 5
  maxPending : Nat := 100
  maxFrame : Nat := 16777216
  deriving DecidableEq

namespace Settings

/-- The settings that a client can be opened with. The length of a frame has
to be below the mark of a frame without content. -/
def check (s : Settings) : Except Failure Unit :=
  if s.connectTimeout.nanos = 0 then
    .error (.config "connect_timeout must be greater than zero")
  else if s.maxPending = 0 then
    .error (.config "max_pending_requests must be greater than zero")
  else if s.maxFrame = 0 then
    .error (.config "max_frame_size must be greater than zero")
  else if 4294967295 ≤ s.maxFrame then
    .error (.config "max_frame_size must be below 4294967295 bytes")
  else .ok ()

def describe (s : Settings) : String :=
  "ClientOptions \x7b default_timeout: " ++ s.callTimeout.text
    ++ ", connect_timeout: " ++ s.connectTimeout.text
    ++ ", max_pending_requests: " ++ Decimal.natText s.maxPending
    ++ ", max_frame_size: " ++ Decimal.natText s.maxFrame ++ " \x7d"

end Settings

/-- What a client is opened with. -/
structure Plan where
  endpoint : String := Endpoint.defaultName
  settings : Settings := {}
  ownLink : Bool := false

def Plan.describe (p : Plan) : String :=
  "ClientBuilder \x7b endpoint: " ++ Text.quote p.endpoint ++ ", options: " ++ p.settings.describe
    ++ ", custom_connector: " ++ (if p.ownLink then "true" else "false") ++ " \x7d"

/-- The endpoint of a plan whose settings are sound. -/
def Plan.resolve (p : Plan) (directory : String) : Except Failure Endpoint := do
  p.settings.check
  Endpoint.resolve directory p.endpoint

end RemoteJobs
