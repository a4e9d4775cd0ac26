import RemoteJobs.Notice

/-!
# Queues and their programs

The server lists its queues as an object: under the name of each queue the
names of its programs. Whatever is no name in a list of programs is passed
over, `null` stands for no programs, and so does any other value, of which a
notice tells.
-/

namespace RemoteJobs

structure Queues where
  programs : Keyed (List String)

namespace Queues

def ofList (entries : List (String × List String)) : Queues := ⟨Keyed.ofList entries⟩

def names (q : Queues) : List String := q.programs.names

def size (q : Queues) : Nat := q.programs.length

def isEmpty (q : Queues) : Bool := q.programs.isEmpty

/-- The programs of a queue. -/
def programs? (q : Queues) (queue : String) : Option (List String) := Keyed.get? q.programs queue

def contains (q : Queues) (queue program : String) : Bool :=
  match q.programs? queue with
  | some ps => ps.contains program
  | none => false

/-- The names of programs in a value. -/
def programsOf : Json → List String
  | .arr items => items.filterMap fun
    | .str t => some t
    | _ => none
  | _ => []

/-- The notices that a value under a queue's name gives rise to. -/
def noticesOf (queue : String) : Json → List Notice
  | .null | .arr _ => []
  | v => [.programsIgnored queue v]

def decode (v : Json) : Except Schema.Mismatch Queues × List Notice :=
  match v with
  | .obj members =>
    (.ok ⟨members.map fun (k, v) => (k, programsOf v)⟩,
      members.flatMap fun (k, v) => noticesOf k v)
  | v => (.error (.kind (.of v) .queues), [])

def members (q : Queues) : List (String × Json) := q.programs.map fun (k, ps) => (k, .strings ps)

def toJson (q : Queues) : Json := .object q.members

end Queues

end RemoteJobs
