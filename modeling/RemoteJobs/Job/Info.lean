import RemoteJobs.Job.Id
import RemoteJobs.Job.Request
import RemoteJobs.Job.State

/-!
# What the server tells of jobs

The answer to a submission and to a cancellation, the description of a job,
and the change of its state. A description is one object that holds the
members of the request as well as its own, so it cannot be written as a list.
-/

namespace RemoteJobs

structure Submission where
  job : JobId
  workingDirectory : Option String
  deriving DecidableEq

namespace Submission

def decode : Schema.Decoder Submission :=
  Schema.record ⟨"SubmitJobResult", 2⟩
    (Submission.mk
      <$> Schema.required "moleQueueId" 0 JobId.decode
      <*> Schema.optional "workingDirectory" 1 none (.nullable .string))

def members (s : Submission) : List (String × Json) :=
  s.job.members ++ Schema.present "workingDirectory" .str s.workingDirectory

def toJson (s : Submission) : Json := .object s.members

end Submission

/-- The answer to a cancellation: the id of the job, bare or in a record. -/
inductive Cancellation where
  | bare (job : JobId)
  | wrapped (job : JobId)
  deriving DecidableEq

namespace Cancellation

def job : Cancellation → JobId
  | bare i => i
  | wrapped i => i

def decode : Schema.Decoder Cancellation := fun v =>
  match JobId.decode v with
  | .ok i => .ok (bare i)
  | .error _ =>
    match JobId.ofParams v with
    | .ok i => .ok (wrapped i)
    | .error _ => .error (.noForm "CancelJobResult")

end Cancellation

structure JobInfo where
  job : JobId
  state : JobState
  /-- The id in the remote queue, if the job is in one. -/
  queueId : Option UInt64
  request : JobRequest
  deriving DecidableEq

namespace JobInfo

/-- The fields that a description has beside those of the request. -/
def reading : Schema.Reading (JobRequest → JobInfo) :=
  JobInfo.mk
    <$> Schema.required "moleQueueId" 0 JobId.decode
    <*> Schema.optional "jobState" 1 .none JobState.decode
    <*> Schema.optional "queueId" 2 none (.nullable .word64)

/-- The names of these fields. -/
def ownNames : List String := ["moleQueueId", "jobState", "queueId"]

/-- A description's own fields are read first. The members with other names are
what the request is read of. -/
def decode : Schema.Decoder JobInfo
  | .obj members =>
    match Schema.ofMembers reading members with
    | .ok info =>
      (Schema.ofMembers JobRequest.reading (members.filter (·.1 ∉ ownNames))).map info
    | .error m => .error m
  | v => .error (.kind (.of v) (.record "JobInfo"))

def members (i : JobInfo) : List (String × Json) :=
  i.job.members ++ [("jobState", i.state.toJson)]
    ++ Schema.present "queueId" (fun n => .int n.toNat) i.queueId ++ i.request.members

def toJson (i : JobInfo) : Json := .object i.members

end JobInfo

structure StateChange where
  job : JobId
  old : JobState
  new : JobState
  deriving DecidableEq

namespace StateChange

def decode : Schema.Decoder StateChange :=
  Schema.record ⟨"JobStateChange", 3⟩
    (StateChange.mk
      <$> Schema.required "moleQueueId" 0 JobId.decode
      <*> Schema.optional "oldState" 1 .none JobState.decode
      <*> Schema.required "newState" 2 JobState.decode)

def members (c : StateChange) : List (String × Json) :=
  c.job.members ++ [("oldState", c.old.toJson), ("newState", c.new.toJson)]

def toJson (c : StateChange) : Json := .object c.members

end StateChange

end RemoteJobs
