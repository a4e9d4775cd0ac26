import RemoteJobs.Client.Call
import RemoteJobs.Job.Info
import RemoteJobs.Job.Queues
import RemoteJobs.Method

/-!
# Orders

An order is a call of one of the server's methods, together with the meaning of
its result.
-/

namespace RemoteJobs

structure Order (α : Type) where
  method : Method
  params : Json
  decode : Json → Except Schema.Mismatch α × List Notice

namespace Order

variable {α β : Type}

/-- An order whose result is decoded without notices. -/
def plain (method : Method) (params : Json) (decode : Schema.Decoder α) : Order α :=
  ⟨method, params, fun v => (decode v, [])⟩

def map (f : α → β) (o : Order α) : Order β where
  method := o.method
  params := o.params
  decode v := ((o.decode v).1.map f, (o.decode v).2)

def submitJob (r : JobRequest) : Order Submission := plain .submitJob r.toJson Submission.decode

/-- Submits a job of which only the queue and the program are said. -/
def submit (queue program : String) : Order JobId :=
  (submitJob { queue, program }).map Submission.job

def cancelJob (i : JobId) : Order JobId :=
  (plain .cancelJob i.toParams Cancellation.decode).map Cancellation.job

def lookupJob (i : JobId) : Order JobInfo := plain .lookupJob i.toParams JobInfo.decode

def listQueues : Order Queues := ⟨.listQueues, .null, Queues.decode⟩

/-- Reads a value that the call has returned. -/
def read (o : Order α) (v : Json) : Except Failure α :=
  (o.decode v).1.mapError fun m => .protocol s!"Unexpected {o.method.name} result: {m.message}"

/-- What there is to tell of a result once it has been read. -/
def told (o : Order α) : Except Failure (Outcome Json) → List Notice
  | .ok (.completed v) => (o.decode v).2
  | _ => []

/-- What the result of the call means. -/
def interpret (o : Order α) (result : Except Failure (Outcome Json)) :
    Except Failure (Outcome α) × List Notice :=
  (result.bind (·.tryMap o.read), o.told result)

end Order

namespace Client

variable {L N α : Type}

/-- Makes the call of an order. -/
def order [Link L] (c : Client L N) (o : Order α) : Call × Client L N :=
  c.issue o.method.name o.params

/-- Ends the call of an order whose time is over, with what its result means. -/
def settleOrder (c : Client L N) (o : Order α) (call : Call) :
    Except Failure (Outcome α) × Client L N :=
  let (result, c) := c.settle call
  let (meaning, ns) := o.interpret result
  (meaning, c.tell ns)

end Client

end RemoteJobs
