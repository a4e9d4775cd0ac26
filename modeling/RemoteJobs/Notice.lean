import RemoteJobs.Failure

/-!
# Notices

What the client reports besides its results: things that go wrong and that it
lives with.
-/

namespace RemoteJobs

inductive Notice where
  /-- A request is refused because `pending` others are open. -/
  | tooManyPending (id : PacketId) (pending max : Nat)
  | duplicateReply (id : PacketId)
  | frameDropped (reason : Failure) (size : Nat)
  /-- An observer panics; a panic may come without a text. -/
  | observerPanicked (index : Nat) (method : String) (text : Option String)
  | stateChangeIgnored (reason : Failure)
  /-- A queue's programs are no list; it is taken to have none. -/
  | programsIgnored (queue : String) (programs : Json)
  | sendFailed (id : PacketId) (method : String) (reason : Failure)
  | readFailed (reason : Failure)

inductive Severity where
  | warning
  | error

def Severity.text : Severity → String
  | .warning => "WARN"
  | .error => "ERROR"

namespace Notice

def severity : Notice → Severity
  | observerPanicked .. | readFailed _ => .error
  | _ => .warning

def headline : Notice → String
  | tooManyPending .. => "Too many pending requests"
  | duplicateReply _ => "Duplicate reply dropped"
  | frameDropped .. => "Dropping inbound frame"
  | observerPanicked .. => "Notification callback panicked"
  | stateChangeIgnored _ => "Ignoring jobStateChanged notification"
  | programsIgnored .. => "Ill-formed program list"
  | sendFailed .. => "Request send failed"
  | readFailed _ => "Local socket read failed"

/-- The particulars, each under its name. -/
def particulars : Notice → List (String × String)
  | tooManyPending id pending max =>
    [("id", id.text), ("pending", Decimal.natText pending), ("max", Decimal.natText max)]
  | duplicateReply id => [("id", id.text)]
  | frameDropped reason size => [("error", reason.message), ("len", Decimal.natText size)]
  | observerPanicked index method text =>
    [("index", Decimal.natText index), ("method", method),
      ("panic", text.getD "non-string panic payload")]
  | stateChangeIgnored reason => [("error", reason.message)]
  | programsIgnored queue programs => [("queue", queue), ("programs", programs.text)]
  | sendFailed id method reason =>
    [("id", id.text), ("method", method), ("error", reason.message)]
  | readFailed reason => [("error", reason.message)]

def text (n : Notice) : String :=
  n.particulars.foldl (fun t (k, v) => t ++ " " ++ k ++ "=" ++ v)
    (n.severity.text ++ " " ++ n.headline)

end Notice

end RemoteJobs
