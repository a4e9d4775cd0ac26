import RemoteJobs.Schema.Record

/-!
# Ids of jobs

The server numbers the jobs. Zero is the id of no job. The methods on one job
take a record that holds its id and nothing else.
-/

namespace RemoteJobs

structure JobId where
  number : UInt64
  deriving DecidableEq

namespace JobId

def default : JobId := ⟨0⟩

def isValid (i : JobId) : Bool := i.number ≠ 0

def text (i : JobId) : String := Decimal.natText i.number.toNat

def toJson (i : JobId) : Json := .int i.number.toNat

def decode : Schema.Decoder JobId := fun v => (Schema.Decoder.word64 v).map JobId.mk

/-- The record that holds an id. -/
def members (i : JobId) : List (String × Json) := [("moleQueueId", i.toJson)]

def toParams (i : JobId) : Json := .object i.members

def ofParams : Schema.Decoder JobId :=
  Schema.record ⟨"MoleQueueIdParams", 1⟩ (Schema.required "moleQueueId" 0 decode)

end JobId

end RemoteJobs
