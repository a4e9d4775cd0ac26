import RemoteJobs.Envelope.Reply
import RemoteJobs.Notice

/-!
# Slots

Between its request and its reply a call holds a slot under its packet id. The
slot is made empty before the request is sent, the reply fills it, and the call
takes the reply out and the slot away. The first reply stays: a second one for
the same id is dropped, as is one for an id without a slot.

When the table is closed it loses all slots and takes no new ones.

Every operation is one step of the table; calls of several threads take turns
with their steps.
-/

namespace RemoteJobs

structure Slots where
  capacity : Nat
  closed : Bool
  /-- The open slots, the oldest first, and the replies that have come. -/
  entries : List (PacketId × Option Reply)

namespace Slots

/-- As many slots as a word of 64 bits can count. -/
def unlimited : Nat := 18446744073709551615

def empty (capacity : Nat) : Slots := ⟨capacity, false, []⟩

def size (s : Slots) : Nat := s.entries.length

def isEmpty (s : Slots) : Bool := s.entries.isEmpty

/-- The slot of an id: nothing if there is none, and else its reply, if it
has come. -/
def find? (s : Slots) (id : PacketId) : Option (Option Reply) :=
  (s.entries.find? (·.1 = id)).map (·.2)

/-- The table without the slot of an id. -/
def erase (s : Slots) (id : PacketId) : Slots :=
  { s with entries := s.entries.filter (·.1 ≠ id) }

/-! ## Registering -/

/-- Why an id gets no slot. -/
inductive Refusal where
  | closed
  | full (id : PacketId) (pending max : Nat)
  | taken (id : PacketId)

def Refusal.failure : Refusal → Failure
  | closed => .connectionClosed
  | full _ pending max =>
    .protocol s!"Too many pending requests: {Decimal.natText pending}/{Decimal.natText max}"
  | taken id => .protocol s!"Packet id {id.text} is already pending"

def Refusal.notices : Refusal → List Notice
  | full id pending max => [.tooManyPending id pending max]
  | _ => []

def register (s : Slots) (id : PacketId) : Except Refusal Slots :=
  if s.closed then .error .closed
  else if s.capacity ≤ s.size then .error (.full id s.size s.capacity)
  else if (s.find? id).isSome then .error (.taken id)
  else .ok { s with entries := s.entries ++ [(id, none)] }

/-! ## Filling -/

/-- What becomes of a reply. -/
inductive Filling where
  | stored
  | duplicate (id : PacketId)
  | unknown
  deriving DecidableEq

def Filling.notices : Filling → List Notice
  | duplicate id => [.duplicateReply id]
  | _ => []

/-- Puts a reply into the slot of an id, unless one is there already. -/
def store (s : Slots) (id : PacketId) (r : Reply) : Filling × Slots :=
  match s.find? id with
  | none => (.unknown, s)
  | some (some _) => (.duplicate id, s)
  | some none =>
    (.stored, { s with entries := s.entries.map fun (i, o) => (i, if i = id then some r else o) })

/-- Puts a reply into the slot of its own id. -/
def fill (s : Slots) (r : Reply) : Filling × Slots := s.store r.id r

/-! ## Waiting -/

/-- What a call that waits finds in the table. -/
inductive Finding where
  | reply (r : Reply)
  /-- There is no slot any more, or the time is over. -/
  | nothing
  /-- The reply may still come. -/
  | pending

/-- One look at the slot of an id; `expired` if the time of the call is over.
A reply that is there is taken even then. -/
def look (s : Slots) (id : PacketId) (expired : Bool) : Finding × Slots :=
  match s.find? id with
  | some (some r) => (.reply r, s.erase id)
  | some none => if s.closed || expired then (.nothing, s.erase id) else (.pending, s)
  | none => (.nothing, s)

/-! ## Giving up -/

/-- Takes a slot away, and says whether there was one. -/
def remove (s : Slots) (id : PacketId) : Bool × Slots := ((s.find? id).isSome, s.erase id)

/-- Closes the table, and says how many slots it has lost. -/
def close (s : Slots) : Nat × Slots :=
  if s.closed then (0, s) else (s.size, { s with closed := true, entries := [] })

end Slots

end RemoteJobs
