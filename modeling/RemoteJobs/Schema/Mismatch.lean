import RemoteJobs.Json.Printer
import RemoteJobs.Text.Quoted

/-!
# Values of the wrong form

Why a JSON value, well formed in itself, is not the value that was wanted.
-/

namespace RemoteJobs.Schema

/-- What stands where something else was wanted. -/
inductive Found where
  | null
  | bool (b : Bool)
  | int (n : Int)
  | real (x : Binary64)
  | str (t : String)
  | list
  | members

def Found.of : Json → Found
  | .null => .null
  | .bool b => .bool b
  | .int n => .int n
  | .real x => .real x
  | .str t => .str t
  | .arr _ => .list
  | .obj _ => .members

def Found.text : Found → String
  | .null => "null"
  | .bool true => "boolean `true`"
  | .bool false => "boolean `false`"
  | .int n => s!"integer `{Decimal.intText n}`"
  | .real x => s!"floating point `{(Json.real x).text}`"
  | .str t => s!"string {Text.quote t}"
  | .list => "sequence"
  | .members => "map"

/-- What is wanted of a value. -/
inductive Wanted where
  | word64
  | word32
  | signed64
  | positive64
  | bool
  | string
  | jobState
  | queues
  | record (name : String)

def Wanted.text : Wanted → String
  | .word64 => "u64"
  | .word32 => "u32"
  | .signed64 => "i64"
  | .positive64 => "a nonzero u64"
  | .bool => "a boolean"
  | .string => "a string"
  | .jobState => "a job state name or number"
  | .queues => "a map"
  | .record name => "struct " ++ name

inductive Mismatch where
  /-- A value of another kind. -/
  | kind (found : Found) (wanted : Wanted)
  /-- An integer out of range. -/
  | range (found : Int) (wanted : Wanted)
  | missing (field : String)
  | duplicate (field : String)
  /-- A list that ends before the field at place `count`. -/
  | tooShort (count : Nat) (record : String) (size : Nat)
  | tooLong (count : Nat)
  /-- None of the forms that a value may take. -/
  | noForm (name : String)

def Mismatch.message : Mismatch → String
  | .kind found wanted => s!"invalid type: {found.text}, expected {wanted.text}"
  | .range found wanted =>
    s!"invalid value: {Found.text (.int found)}, expected {wanted.text}"
  | .missing field => s!"missing field `{field}`"
  | .duplicate field => s!"duplicate field `{field}`"
  | .tooShort count record size =>
    s!"invalid length {Decimal.natText count}, expected struct {record} with {Decimal.natText size} "
      ++ (if size = 1 then "element" else "elements")
  | .tooLong count => s!"invalid length {Decimal.natText count}, expected fewer elements in array"
  | .noForm name => s!"data did not match any variant of untagged enum {name}"

end RemoteJobs.Schema
