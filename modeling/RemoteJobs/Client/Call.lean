import RemoteJobs.Client.Session
import RemoteJobs.Outcome

/-!
# Calls

A call goes through a few stages, each of which is one step: it draws an id,
gets a slot, sends its request, and then looks at its slot until the reply is
there, the connection is gone or its time is over. The steps of several calls,
and the frames that come in, may follow each other in any order.

The slot is there before the request is sent, so no reply comes too early. A
call whose request cannot be sent takes its slot away again.
-/

namespace RemoteJobs

inductive Call where
  | begun (method : String) (params : Json)
  | numbered (id : PacketId) (method : String) (params : Json)
  | registered (id : PacketId) (method : String) (params : Json)
  /-- The request was not sent; the slot is still there. -/
  | refused (id : PacketId) (method : String) (reason : Failure)
  | sent (id : PacketId)
  | ended (result : Except Failure (Outcome Json))

namespace Call

variable {L N : Type}

/-- The next step of a call that has not sent its request. -/
def advance [Link L] (call : Call) (d : Desk (Session L N)) :
    Call × Desk (Session L N) × List Notice :=
  match call with
  | begun method params =>
    if d.memory.connected then
      let (id, ids) := d.memory.ids.draw
      (numbered id method params, { d with memory := { d.memory with ids } }, [])
    else (ended (.error .connectionClosed), d, [])
  | numbered id method params =>
    match d.slots.register id with
    | .ok slots => (registered id method params, { d with slots }, [])
    | .error e => (ended (.error e.failure), d, e.notices)
  | registered id method params =>
    match Link.send d.memory.link (Request.call id method params).bytes with
    | .ok link => (sent id, { d with memory := { d.memory with link } }, [])
    | .error e => (refused id method e, d, [])
  | refused id method reason =>
    (ended (.error reason), { d with slots := (d.slots.remove id).2 }, [.sendFailed id method reason])
  | sent id => (sent id, d, [])
  | ended result => (ended result, d, [])

/-- Several steps. -/
def advanceBy [Link L] : Nat → Call → Desk (Session L N) →
    Call × Desk (Session L N) × List Notice
  | 0, call, d => (call, d, [])
  | n + 1, call, d =>
    let (call, d, ns) := call.advance d
    let (call, d, ns') := advanceBy n call d
    (call, d, ns ++ ns')

/-- Makes a call and comes to the point where its request is sent, or the call
is over. -/
def issue [Link L] (method : String) (params : Json) (d : Desk (Session L N)) :
    Call × Desk (Session L N) × List Notice :=
  advanceBy 4 (begun method params) d

/-- One look of a call at its slot. -/
def look (call : Call) (expired : Bool) (d : Desk (Session L N)) : Call × Desk (Session L N) :=
  match call with
  | sent id =>
    match d.slots.look id expired with
    | (.reply r, slots) => (ended (r.result.map .completed), { d with slots })
    | (.nothing, slots) => (ended (.ok .timedOut), { d with slots })
    | (.pending, slots) => (sent id, { d with slots })
  | call => (call, d)

/-- The result of a call that is over. -/
def result? : Call → Option (Except Failure (Outcome Json))
  | ended result => some result
  | _ => none

end Call

namespace Client

variable {L N : Type}

def issue [Link L] (c : Client L N) (method : String) (params : Json) : Call × Client L N :=
  let (call, state, ns) := Call.issue method params c.state
  (call, Scene.tell { c with state } ns)

/-- Ends a call whose time is over. -/
def settle (c : Client L N) (call : Call) : Except Failure (Outcome Json) × Client L N :=
  let (call, state) := call.look true c.state
  (call.result?.getD (.ok .timedOut), { c with state })

end Client

end RemoteJobs
