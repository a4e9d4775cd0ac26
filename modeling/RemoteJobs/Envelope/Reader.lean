import RemoteJobs.Envelope.Request
import RemoteJobs.Json.Reader
import RemoteJobs.Json.Skip

/-!
# Reading requests

A request is read from its text without a JSON value in between, so a field of
the wrong form is noticed where it stands, and fields that do not belong to a
request are only passed over. The first fault in the order of the text counts;
that a field is missing or that a list is too short shows at the closing
bracket.
-/

namespace RemoteJobs.Request

open Schema (Decoder Mismatch)
open Json

/-! ## Values of fields -/

/-- The room for lists and objects inside the request. -/
def room : Nat := Json.depth - 1

/-- The value of a field without parts. A bracket is not taken. -/
def part {α : Type} (d : Decoder α) (s : Bytes) : Except Fault (α × Bytes) :=
  match skipBlanks s with
  | [] => .error (.next .endInValue [])
  | b :: r =>
    if b = ascii '[' then fit (.arr []) (b :: r)
    else if b = ascii '\x7b' then fit (.obj []) (b :: r)
    else
      match Json.scalar (b :: r) with
      | .ok (v, r) => fit v r
      | .error f => .error f
where
  fit (v : Json) (r : Bytes) : Except Fault (α × Bytes) :=
    match d v with
    | .ok a => .ok (a, r)
    | .error m => .error (.here (.mismatch m) r)

/-- The value of a field that takes any value. -/
def whole (s : Bytes) : Except Fault (Json × Bytes) :=
  (Json.value room s).map fun (v, r) => (v, r.val)

/-! ## Requests written as objects -/

/-- The fields read so far. -/
structure Draft where
  version : Option String := none
  id : Option PacketId := none
  method : Option String := none
  params : Option Json := none

def Draft.request (d : Draft) : Except Mismatch Request :=
  match d.version, d.id, d.method with
  | none, _, _ => .error (.missing "jsonrpc")
  | _, none, _ => .error (.missing "id")
  | _, _, none => .error (.missing "method")
  | some version, some id, some method => .ok ⟨version, id, method, d.params.getD .null⟩

/-- The next key and what follows it, or what follows the brace. -/
def nextKey (first : Bool) (s : Bytes) : Except Fault (Option String × Bytes) :=
  match skipBlanks s with
  | [] => .error (.next .endInObject [])
  | b :: r =>
    if b = ascii '\x7d' then .ok (none, r)
    else if first then key (b :: r)
    else if b = ascii ',' then
      match skipBlanks r with
      | [] => .error (.next .endInValue [])
      | c :: t =>
        if c = ascii '\x7d' then .error (.next .trailingComma (c :: t)) else key (c :: t)
    else .error (.next .expectedObjectEnd (b :: r))
where
  key : Bytes → Except Fault (Option String × Bytes)
    | [] => .error (.next .keyNotString [])
    | b :: r =>
      if b = ascii '"' then (Json.string r).map fun (k, r) => (some k, r)
      else .error (.next .keyNotString (b :: r))

/-- What follows the blanks after a key that stands there a second time, and
the brace if that comes next. -/
def behindKey (s : Bytes) : Bytes :=
  match skipBlanks s with
  | [] => []
  | b :: r => if b = ascii '\x7d' then r else b :: r

/-- Enters the value that follows a key. -/
def enter (d : Draft) (key : String) (s : Bytes) : Except Fault (Draft × Bytes) :=
  if key = "jsonrpc" then
    fresh d.version.isSome (part .string) fun v => { d with version := some v }
  else if key = "id" then
    fresh d.id.isSome (part PacketId.decode) fun i => { d with id := some i }
  else if key = "method" then
    fresh d.method.isSome (part .string) fun m => { d with method := some m }
  else if key = "params" then
    fresh d.params.isSome whole fun v => { d with params := some v }
  else
    match Json.takeColon s with
    | .error f => .error f
    | .ok r => (Json.skip r).map fun r => (d, r)
where
  fresh {α : Type} (taken : Bool) (read : Bytes → Except Fault (α × Bytes)) (put : α → Draft) :
      Except Fault (Draft × Bytes) :=
    if taken then .error (.here (.mismatch (.duplicate key)) (behindKey s))
    else
      match Json.takeColon s with
      | .error f => .error f
      | .ok r => (read r).map fun (a, r) => (put a, r)

theorem length_part {α : Type} {d : Decoder α} {s r : Bytes} {a : α}
    (h : part d s = .ok (a, r)) : r.length ≤ s.length := by
  have hf : ∀ {v u}, part.fit d v u = .ok (a, r) → r = u := by
    intro v u h
    unfold part.fit at h
    split at h
    · simp only [Except.ok.injEq, Prod.mk.injEq] at h
      exact h.2.symm
    · simp at h
  have hs := length_skipBlanks s
  unfold part at h
  split at h
  · simp at h
  · next b u hb =>
    rw [hb] at hs
    split at h
    · rw [hf h]
      exact hs
    · split at h
      · rw [hf h]
        exact hs
      · split at h
        · next hv =>
          rw [hf h]
          exact Nat.le_of_lt (Nat.lt_of_lt_of_le (length_scalar hv) hs)
        · simp at h

theorem length_whole {s r : Bytes} {v : Json} (h : whole s = .ok (v, r)) :
    r.length ≤ s.length := by
  unfold whole at h
  cases hv : Json.value room s with
  | error f => simp [hv, Except.map] at h
  | ok p =>
    simp only [hv, Except.map, Except.ok.injEq, Prod.mk.injEq] at h
    rw [← h.2]
    exact Nat.le_of_lt p.2.property

theorem length_nextKey {first : Bool} {s r : Bytes} {k : Option String}
    (h : nextKey first s = .ok (k, r)) : r.length < s.length := by
  have hk : ∀ {u}, nextKey.key u = .ok (k, r) → r.length < u.length := by
    intro u h
    unfold nextKey.key at h
    split at h
    · simp at h
    · next b t =>
      split at h
      · cases ht : string t with
        | error f => simp [ht, Except.map] at h
        | ok p =>
          simp only [ht, Except.map, Except.ok.injEq, Prod.mk.injEq] at h
          rw [← h.2]
          exact Nat.lt_succ_of_lt (length_string (t := p.1) ht)
      · simp at h
  have hs := length_skipBlanks s
  unfold nextKey at h
  split at h
  · simp at h
  · next b u hb =>
    rw [hb] at hs
    split at h
    · simp only [Except.ok.injEq, Prod.mk.injEq] at h
      rw [← h.2]
      exact hs
    · split at h
      · exact Nat.lt_of_lt_of_le (hk h) hs
      · split at h
        · split at h
          · simp at h
          · next c t hc =>
            have hu := length_skipBlanks u
            rw [hc] at hu
            split at h
            · simp at h
            · have := hk h
              simp only [List.length_cons] at *
              omega
        · simp at h

theorem length_enter {d d' : Draft} {key : String} {s r : Bytes}
    (h : enter d key s = .ok (d', r)) : r.length < s.length := by
  have hf : ∀ {α : Type} {taken : Bool} {read : Bytes → Except Fault (α × Bytes)} {put : α → Draft},
      (∀ {u t a}, read u = .ok (a, t) → t.length ≤ u.length) →
      enter.fresh key s taken read put = .ok (d', r) → r.length < s.length := by
    intro α taken read put hr h
    unfold enter.fresh at h
    split at h
    · simp at h
    · split at h
      · simp at h
      · next u hu =>
        cases ha : read u with
        | error f => simp [ha, Except.map] at h
        | ok p =>
          simp only [ha, Except.map, Except.ok.injEq, Prod.mk.injEq] at h
          rw [← h.2]
          exact Nat.lt_of_le_of_lt (hr (a := p.1) ha) (length_takeColon hu)
  unfold enter at h
  split at h
  · exact hf length_part h
  split at h
  · exact hf length_part h
  split at h
  · exact hf length_part h
  split at h
  · exact hf length_whole h
  split at h
  · simp at h
  · next u hu =>
    cases ha : skip u with
    | error f => simp [ha, Except.map] at h
    | ok t =>
      simp only [ha, Except.map, Except.ok.injEq, Prod.mk.injEq] at h
      rw [← h.2]
      exact Nat.lt_of_le_of_lt (length_skip ha) (length_takeColon hu)

/-- The members up to the brace, entered into `d`; `first` if none has been
read. -/
def takeMembers (d : Draft) (first : Bool) (s : Bytes) : Except Fault (Request × Bytes) :=
  match _hk : nextKey first s with
  | .error f => .error f
  | .ok (none, r) =>
    match d.request with
    | .ok q => .ok (q, r)
    | .error m => .error (.here (.mismatch m) r)
  | .ok (some key, r) =>
    match _he : enter d key r with
    | .error f => .error f
    | .ok (d, r) => takeMembers d false r
termination_by s.length
decreasing_by exact Nat.lt_trans (length_enter _he) (length_nextKey _hk)

/-! ## Requests written as lists -/

/-- Whether an element follows, and what stands before it or follows the
bracket. -/
def nextItem (first : Bool) (s : Bytes) : Except Fault (Bool × Bytes) :=
  match skipBlanks s with
  | [] => .error (.next .endInList [])
  | b :: r =>
    if b = ascii ']' then .ok (false, r)
    else if first then .ok (true, b :: r)
    else if b = ascii ',' then
      match skipBlanks r with
      | [] => .error (.next .endInValue [])
      | c :: t =>
        if c = ascii ']' then .error (.next .trailingComma (c :: t)) else .ok (true, c :: t)
    else .error (.next .expectedListEnd (b :: r))

/-- The element at a place that has to be there. -/
def item {α : Type} (place : Nat) (d : Decoder α) (s : Bytes) : Except Fault (α × Bytes) :=
  match nextItem (place == 0) s with
  | .error f => .error f
  | .ok (true, r) => part d r
  | .ok (false, r) => .error (.here (.mismatch (.tooShort place shape.name shape.size)) r)

/-- The bracket behind the last element. -/
def endList (s : Bytes) : Except Fault Bytes :=
  match skipBlanks s with
  | [] => .error (.next .endInList [])
  | b :: r =>
    if b = ascii ']' then .ok r
    else if b = ascii ',' then
      match skipBlanks r with
      | [] => .error (.next .trailingCharacters [])
      | c :: t =>
        .error (.next (if c = ascii ']' then .trailingComma else .trailingCharacters) (c :: t))
    else .error (.next .trailingCharacters (b :: r))

/-- The elements up to the bracket. -/
def takeItems (s : Bytes) : Except Fault (Request × Bytes) := do
  let (version, s) ← item 0 .string s
  let (id, s) ← item 1 PacketId.decode s
  let (method, s) ← item 2 .string s
  match ← nextItem false s with
  | (false, s) => return (⟨version, id, method, .null⟩, s)
  | (true, s) =>
    let (params, s) ← whole s
    return (⟨version, id, method, params⟩, ← endList s)

/-! ## Whole texts -/

/-- A request at the front of a text. -/
def take (s : Bytes) : Except Fault (Request × Bytes) :=
  match skipBlanks s with
  | [] => .error (.next .endInValue [])
  | b :: r =>
    if b = ascii '[' then takeItems r
    else if b = ascii '{' then takeMembers {} true r
    else
      match Json.scalar (b :: r) with
      | .ok (v, r) => .error (.here (.mismatch (.kind (.of v) (.record shape.name))) r)
      | .error f => .error f

/-- The request that a text holds. -/
def parse (text : Bytes) : Except Json.TextError Request :=
  match take text with
  | .error f => .error (f.locate text)
  | .ok (q, r) =>
    match Json.atEnd r with
    | .ok () => .ok q
    | .error f => .error (f.locate text)

end RemoteJobs.Request
