import RemoteJobs.Keyed
import RemoteJobs.Decimal.Binary64

/-!
# JSON values

A number is an integer or a number of binary64; the two never equal each
other, so `1` and `1.0` are different values. The members of an object are a
`Keyed` list: wherever a value has been read they stand in increasing order of
their names, one for each name.
-/

namespace RemoteJobs

inductive Json where
  | null
  | bool (b : Bool)
  | int (n : Int)
  | real (x : Binary64)
  | str (t : String)
  | arr (items : List Json)
  | obj (members : List (String × Json))
  deriving Inhabited

namespace Json

/-- An object with these members, whatever their order; of several under one
name the last counts. -/
def object (members : List (String × Json)) : Json := .obj (Keyed.ofList members)

/-- The member of an object under a name. -/
def member? : Json → String → Option Json
  | .obj m, k => Keyed.get? m k
  | _, _ => none

/-- A list of texts. -/
def strings (ts : List String) : Json := .arr (ts.map .str)

end Json

end RemoteJobs
