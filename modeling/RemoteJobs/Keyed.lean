/-!
# Values by name

A `Keyed α` lists values under names. `insert` keeps the names in increasing
order, by the codes of their characters, and lets a new value take the place
of an old one under the same name. The order is that of the names' UTF-8
bytes too.

`Ordered` says that the names increase; every list that `insert` builds from
nothing has this property, and a list that has it is known by its `get?`.
-/

namespace RemoteJobs

abbrev Keyed (α : Type) := List (String × α)

namespace Keyed

variable {α : Type}

def insert (k : String) (v : α) : Keyed α → Keyed α
  | [] => [(k, v)]
  | (k', v') :: r =>
    if k < k' then (k, v) :: (k', v') :: r
    else if k = k' then (k, v) :: r
    else (k', v') :: insert k v r

/-- The value under a name. -/
def get? (m : Keyed α) (k : String) : Option α :=
  (m.find? (·.1 = k)).map (·.2)

def names (m : Keyed α) : List String := m.map (·.1)

/-- The entries in increasing order of their names; of several under one name
the last. -/
def ofList (entries : List (String × α)) : Keyed α :=
  entries.foldl (fun m e => insert e.1 e.2 m) []

/-- The names increase. -/
def Ordered (m : Keyed α) : Prop := m.names.Pairwise (· < ·)

instance (m : Keyed α) : Decidable (Ordered m) :=
  inferInstanceAs (Decidable (m.names.Pairwise (· < ·)))

end Keyed

end RemoteJobs
