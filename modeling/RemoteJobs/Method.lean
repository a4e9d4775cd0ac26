/-!
# Methods

What a client asks of the server, and the one event that the server tells of by
itself.
-/

namespace RemoteJobs

inductive Method where
  | listQueues
  | submitJob
  | cancelJob
  | lookupJob
  | jobStateChanged
  deriving DecidableEq

namespace Method

def all : List Method := [listQueues, submitJob, cancelJob, lookupJob, jobStateChanged]

def name : Method → String
  | listQueues => "listQueues"
  | submitJob => "submitJob"
  | cancelJob => "cancelJob"
  | lookupJob => "lookupJob"
  | jobStateChanged => "jobStateChanged"

def ofName? (t : String) : Option Method := all.find? (·.name = t)

end Method

end RemoteJobs
