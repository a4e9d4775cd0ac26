import RemoteJobs.Schema.Decoder

/-!
# Records

A record is written as an object with a member for each field, or as a list of
the fields in their order. Of the objections to a source the reader reports the
one that it comes upon first: in an object it goes through the members in the
order of their names and looks for missing fields afterwards, in the order of
the fields; in a list it goes through the places.

A `Reading` reads some of the fields; readings are put together as an
applicative functor, so that each looks at the whole source and none hides an
objection of another.
-/

namespace RemoteJobs.Schema

/-- Where the fields of a record stand. -/
inductive Source where
  | named (members : List (String × Json))
  | listed (items : List Json)

/-- What speaks against a field; `place` counts the fields from zero. -/
inductive Objection where
  | misfit (name : String) (place : Nat) (mismatch : Mismatch)
  | absent (name : String) (place : Nat)

def Objection.place : Objection → Nat
  | .misfit _ p _ => p
  | .absent _ p => p

/-- Whether the reader comes upon the first objection before the second. -/
def Source.sooner : Source → Objection → Objection → Bool
  | .named _, .misfit n _ _, .misfit n' _ _ => n < n'
  | .named _, .misfit _ _ _, .absent _ _ => true
  | .named _, .absent _ _, .misfit _ _ _ => false
  | _, a, b => a.place < b.place

structure Reading (α : Type) where
  read : Source → Except Objection α

namespace Reading

variable {α β : Type}

def seq (f : Reading (α → β)) (x : Reading α) : Reading β where
  read s :=
    match f.read s, x.read s with
    | .ok f, .ok a => .ok (f a)
    | .ok _, .error e => .error e
    | .error e, .ok _ => .error e
    | .error e, .error e' => .error (if s.sooner e' e then e' else e)

instance : Applicative Reading where
  pure a := ⟨fun _ => .ok a⟩
  seq f x := f.seq (x ())

end Reading

/-- The value of a field, if it is there. -/
def Source.find? : Source → String → Nat → Option Json
  | .named members, name, _ => Keyed.get? members name
  | .listed items, _, place => items[place]?

variable {α : Type}

def decodeAt (name : String) (place : Nat) (d : Decoder α) (v : Json) : Except Objection α :=
  match d v with
  | .ok a => .ok a
  | .error m => .error (.misfit name place m)

/-- A field that has to be there. -/
def required (name : String) (place : Nat) (d : Decoder α) : Reading α where
  read s :=
    match s.find? name place with
    | some v => decodeAt name place d v
    | none => .error (.absent name place)

/-- A field that may be left out and then has the value `absent`. -/
def optional (name : String) (place : Nat) (absent : α) (d : Decoder α) : Reading α where
  read s :=
    match s.find? name place with
    | some v => decodeAt name place d v
    | none => .ok absent

/-- The name of a record and the number of its fields. -/
structure Shape where
  name : String
  size : Nat

/-- The fields of a record out of the members of an object. -/
def ofMembers (r : Reading α) (members : List (String × Json)) : Except Mismatch α :=
  match r.read (.named members) with
  | .ok a => .ok a
  | .error (.misfit _ _ m) => .error m
  | .error (.absent name _) => .error (.missing name)

/-- The fields of a record out of a list, which may hold nothing else. -/
def ofItems (shape : Shape) (r : Reading α) (items : List Json) : Except Mismatch α :=
  match r.read (.listed items) with
  | .ok a => if items.length ≤ shape.size then .ok a else .error (.tooLong items.length)
  | .error (.misfit _ _ m) => .error m
  | .error (.absent _ place) => .error (.tooShort place shape.name shape.size)

/-- A record, written in either way. -/
def record (shape : Shape) (r : Reading α) : Decoder α
  | .obj members => ofMembers r members
  | .arr items => ofItems shape r items
  | v => .error (.kind (.of v) (.record shape.name))

/-- The member of a field that is written only if it has a value. -/
def present (name : String) (write : α → Json) (o : Option α) : List (String × Json) :=
  (o.map fun a => (name, write a)).toList

end RemoteJobs.Schema
