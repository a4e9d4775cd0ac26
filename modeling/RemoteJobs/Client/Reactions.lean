import RemoteJobs.Client.Call
import RemoteJobs.Job.Info
import RemoteJobs.Method

/-!
# Observers of a client

An observer may be interested in the changes of jobs' states only; it may also
make calls and disconnect the client.
-/

namespace RemoteJobs

/-- The observer of the changes of jobs' states. -/
def Observer.ofStateChange {σ : Type} (react : StateChange → Reaction σ) : Observer σ :=
  .only Method.jobStateChanged.name fun n =>
    match n.parse StateChange.decode with
    | .ok change => react change
    | .error e => .tell (.stateChangeIgnored e) .returns

namespace Reaction

variable {L N : Type}

/-- Makes a call that does not wait. -/
def call [Link L] (method : String) (params : Json)
    (next : Except Failure (Outcome Json) → Reaction (Desk (Session L N))) :
    Reaction (Desk (Session L N)) :=
  .read fun d =>
    let (call, d, ns) := Call.issue method params d
    let (call, d) := call.look true d
    .change (fun _ => d) (.tellAll ns (next (call.result?.getD (.ok .timedOut))))

/-- A reaction that reaches the notes alone. -/
def onNotes : Reaction N → Reaction (Desk (Session L N))
  | .returns => .returns
  | .panics text => .panics text
  | .read next => .read fun d => (next d.memory.notes).onNotes
  | .change f next =>
    .change (fun d => { d with memory := { d.memory with notes := f d.memory.notes } }) next.onNotes
  | .tell n next => .tell n next.onNotes
  | .register o next => .register (fun n => (o n).onNotes) next.onNotes

/-- Disconnects the client. -/
def disconnect [Link L] (next : Reaction (Desk (Session L N))) : Reaction (Desk (Session L N)) :=
  .change Session.disconnect next

end Reaction

end RemoteJobs
