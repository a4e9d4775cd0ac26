import RemoteJobs.Schema.Mismatch

/-!
# Decoders

A decoder makes a value of its type out of a JSON value, or says why the JSON
value is not the one that was wanted. Integers are never taken from numbers
with a fraction or an exponent.
-/

namespace RemoteJobs.Schema

abbrev Decoder (α : Type) := Json → Except Mismatch α

namespace Decoder

/-- Every value, as it is. -/
def any : Decoder Json := .ok

def string : Decoder String
  | .str t => .ok t
  | v => .error (.kind (.of v) .string)

def bool : Decoder Bool
  | .bool b => .ok b
  | v => .error (.kind (.of v) .bool)

/-- The integers from `lo` to `hi`. -/
def integer (lo hi : Int) (wanted : Wanted) : Decoder { n : Int // lo ≤ n ∧ n ≤ hi }
  | .int n => if h : lo ≤ n ∧ n ≤ hi then .ok ⟨n, h⟩ else .error (.range n wanted)
  | v => .error (.kind (.of v) wanted)

def word64 : Decoder UInt64 := fun v =>
  (integer 0 18446744073709551615 .word64 v).map fun n => UInt64.ofNat n.val.toNat

def word32 : Decoder UInt32 := fun v =>
  (integer 0 4294967295 .word32 v).map fun n => UInt32.ofNat n.val.toNat

def signed64 : Decoder Int64 := fun v =>
  (integer (-9223372036854775808) 9223372036854775807 .signed64 v).map fun n => Int64.ofInt n.val

/-- Nothing is written as `null`. -/
def nullable {α : Type} (d : Decoder α) : Decoder (Option α)
  | .null => .ok none
  | v => (d v).map some

end Decoder

end RemoteJobs.Schema
