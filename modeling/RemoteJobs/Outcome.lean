import RemoteJobs.Failure

/-!
# Outcomes

A call whose request was sent either comes to its reply or runs out of time.
-/

namespace RemoteJobs

inductive Outcome (α : Type) where
  | completed (a : α)
  | timedOut

namespace Outcome

variable {α β : Type}

def isCompleted : Outcome α → Bool
  | completed _ => true
  | timedOut => false

def isTimedOut : Outcome α → Bool
  | completed _ => false
  | timedOut => true

def value? : Outcome α → Option α
  | completed a => some a
  | timedOut => none

def map (f : α → β) : Outcome α → Outcome β
  | completed a => completed (f a)
  | timedOut => timedOut

/-- As `map`, for a function that may fail. -/
def tryMap (f : α → Except Failure β) : Outcome α → Except Failure (Outcome β)
  | completed a => (f a).map completed
  | timedOut => .ok timedOut

/-- The value, where running out of time is a failure of the request. -/
def result (o : Outcome α) (id : PacketId) (timeout : Span) : Except Failure α :=
  match o with
  | completed a => .ok a
  | timedOut => .error (.requestTimeout id timeout.millis)

end Outcome

end RemoteJobs
