import RemoteJobs.Schema.Decoder

/-!
# States of a job

A state is written by its name. It is also read from a number, and from the
older name of the error state. Whatever else names or numbers a state, the
state is unknown.
-/

namespace RemoteJobs

inductive JobState where
  | unknown
  | none
  | accepted
  | localQueued
  | submitted
  | remoteQueued
  | runningLocal
  | runningRemote
  | finished
  | killed
  | error
  deriving DecidableEq, Inhabited

namespace JobState

def name : JobState → String
  | unknown => "Unknown"
  | none => "None"
  | accepted => "Accepted"
  | localQueued => "LocalQueued"
  | submitted => "Submitted"
  | remoteQueued => "RemoteQueued"
  | runningLocal => "RunningLocal"
  | runningRemote => "RunningRemote"
  | finished => "Finished"
  | killed => "Killed"
  | error => "Error"

/-- The states that have a number, in the order of their numbers from zero. -/
def numbered : List JobState :=
  [none, accepted, localQueued, submitted, remoteQueued, runningLocal, runningRemote, finished,
    killed, error]

def ofName (t : String) : JobState :=
  if t = "ErrorState" then error
  else (numbered.find? (·.name = t)).getD unknown

def ofIndex (n : Int) : JobState :=
  if 0 ≤ n then numbered[n.toNat]?.getD unknown else unknown

/-- Whether the job is over: its state changes no more. -/
def isTerminal : JobState → Bool
  | finished | killed | error => true
  | _ => false

def toJson (s : JobState) : Json := .str s.name

def decode : Schema.Decoder JobState
  | .str t => .ok (ofName t)
  | .int n => .ok (ofIndex n)
  | v => .error (.kind (.of v) .jobState)

end JobState

end RemoteJobs
