import RemoteJobs.Json.Reader.Blank
import RemoteJobs.Json.Reader.Number
import RemoteJobs.Json.Reader.String

/-!
# Reading JSON

`value room` reads a value in which lists and objects are nested at most
`room` deep; every list and object takes one from the room of what stands in
it. Of two members of one name the later counts. A whole text holds one value
and blanks around it, nested at most `depth` deep.
-/

namespace RemoteJobs.Json

/-- Bytes fewer than those of `s`. -/
abbrev Below (s : Bytes) := { r : Bytes // r.length < s.length }

/-- A value without parts: a word, a number or a string. -/
def scalar (s : Bytes) : Except Fault (Json × Bytes) :=
  match s with
  | [] => .error (.next .endInValue [])
  | b :: r =>
    if b = ascii 'n' then word ['u', 'l', 'l'] .null r
    else if b = ascii 't' then word ['r', 'u', 'e'] (.bool true) r
    else if b = ascii 'f' then word ['a', 'l', 's', 'e'] (.bool false) r
    else if b = ascii '-' then number true r
    else if isDigit b then number false (b :: r)
    else if b = ascii '"' then
      match string r with
      | .ok (t, r) => .ok (.str t, r)
      | .error f => .error f
    else .error (.next .expectedValue (b :: r))
where
  word (letters : List Char) (v : Json) (r : Bytes) : Except Fault (Json × Bytes) :=
    match takeWord letters r with
    | .ok r => .ok (v, r)
    | .error f => .error f

theorem length_scalar {s r : Bytes} {v : Json} (h : scalar s = .ok (v, r)) :
    r.length < s.length := by
  have hw : ∀ {cs v' s'}, scalar.word cs v' s' = .ok (v, r) → r.length ≤ s'.length := by
    intro cs v' s' h
    unfold scalar.word at h
    split at h
    · next hr =>
      simp only [Except.ok.injEq, Prod.mk.injEq] at h
      rw [← h.2]
      exact length_takeWord hr
    · simp at h
  unfold scalar at h
  split at h
  · simp at h
  · next b u =>
    simp only [List.length_cons]
    iterate 3
      split at h
      · exact Nat.lt_succ_of_le (hw h)
    split at h
    · exact Nat.lt_succ_of_lt (length_number h)
    split at h
    · exact length_number h
    split at h
    · split at h
      · next hr =>
        simp only [Except.ok.injEq, Prod.mk.injEq] at h
        rw [← h.2]
        exact Nat.lt_succ_of_lt (length_string hr)
      · simp at h
    · simp at h

mutual

def value (room : Nat) (s : Bytes) : Except Fault (Json × Below s) :=
  match _hs : skipBlanks s with
  | [] => .error (.next .endInValue [])
  | b :: r =>
    if b = ascii '[' then
      match room with
      | 0 => .error (.next .tooDeep (b :: r))
      | room + 1 =>
        match items room s [] true r (lt_of_skipBlanks_eq _hs) with
        | .ok (vs, r) => .ok (.arr vs, r)
        | .error f => .error f
    else if b = ascii '\x7b' then
      match room with
      | 0 => .error (.next .tooDeep (b :: r))
      | room + 1 =>
        match members room s [] true r (lt_of_skipBlanks_eq _hs) with
        | .ok (ms, r) => .ok (.obj ms, r)
        | .error f => .error f
    else
      match hv : scalar (b :: r) with
      | .ok (v, r') =>
        .ok (v, ⟨r', Nat.lt_of_lt_of_le (length_scalar hv) (_hs ▸ length_skipBlanks s)⟩)
      | .error f => .error f
termination_by 2 * s.length
decreasing_by
  all_goals
    have := lt_of_skipBlanks_eq _hs
    omega

/-- The elements of a list up to its bracket, after those of `done` (the last
one first); `first` if none has been read. The list stands in `outer`. -/
def items (room : Nat) (outer : Bytes) (done : List Json) (first : Bool) (s : Bytes)
    (hn : s.length < outer.length) : Except Fault (List Json × Below outer) :=
  match _hs : skipBlanks s with
  | [] => .error (.next .endInList [])
  | b :: r =>
    if b = ascii ']' then .ok (done.reverse, ⟨r, Nat.lt_trans (lt_of_skipBlanks_eq _hs) hn⟩)
    else if first then
      match value room (b :: r) with
      | .ok (v, ⟨r', _⟩) =>
        items room outer (v :: done) false r' (by
          have := lt_of_skipBlanks_eq _hs
          simp only [List.length_cons] at *
          omega)
      | .error f => .error f
    else if b = ascii ',' then
      match _hr : skipBlanks r with
      | [] => .error (.next .endInValue [])
      | c :: t =>
        if c = ascii ']' then .error (.next .trailingComma (c :: t))
        else
          match value room (c :: t) with
          | .ok (v, ⟨r', _⟩) =>
            items room outer (v :: done) false r' (by
              have := lt_of_skipBlanks_eq _hs
              have := lt_of_skipBlanks_eq _hr
              simp only [List.length_cons] at *
              omega)
          | .error f => .error f
    else .error (.next .expectedListEnd (b :: r))
termination_by 2 * s.length + 1
decreasing_by
  · have := lt_of_skipBlanks_eq _hs
    simp only [List.length_cons] at *
    omega
  · have := lt_of_skipBlanks_eq _hs
    simp only [List.length_cons] at *
    omega
  · have := lt_of_skipBlanks_eq _hs
    have := lt_of_skipBlanks_eq _hr
    simp only [List.length_cons] at *
    omega
  · have := lt_of_skipBlanks_eq _hs
    have := lt_of_skipBlanks_eq _hr
    simp only [List.length_cons] at *
    omega

/-- The members of an object up to its brace, entered into `done`. The object
stands in `outer`. -/
def members (room : Nat) (outer : Bytes) (done : Keyed Json) (first : Bool) (s : Bytes)
    (hn : s.length < outer.length) : Except Fault (Keyed Json × Below outer) :=
  match _hs : skipBlanks s with
  | [] => .error (.next .endInObject [])
  | b :: r =>
    if b = ascii '\x7d' then .ok (done, ⟨r, Nat.lt_trans (lt_of_skipBlanks_eq _hs) hn⟩)
    else if first then
      if b = ascii '"' then
        member room outer done r (Nat.lt_trans (lt_of_skipBlanks_eq _hs) hn)
      else .error (.next .keyNotString (b :: r))
    else if b = ascii ',' then
      match _hr : skipBlanks r with
      | [] => .error (.next .endInValue [])
      | c :: t =>
        if c = ascii '"' then
          member room outer done t (by
            have := lt_of_skipBlanks_eq _hs
            have := lt_of_skipBlanks_eq _hr
            omega)
        else if c = ascii '\x7d' then .error (.next .trailingComma (c :: t))
        else .error (.next .keyNotString (c :: t))
    else .error (.next .expectedObjectEnd (b :: r))
termination_by 2 * s.length + 1
decreasing_by
  · have := lt_of_skipBlanks_eq _hs
    omega
  · have := lt_of_skipBlanks_eq _hs
    have := lt_of_skipBlanks_eq _hr
    omega

/-- A member, after the opening quote of its key, and the members behind it. -/
def member (room : Nat) (outer : Bytes) (done : Keyed Json) (s : Bytes)
    (hn : s.length < outer.length) : Except Fault (Keyed Json × Below outer) :=
  match _hk : string s with
  | .error f => .error f
  | .ok (k, r) =>
    match _hc : takeColon r with
    | .error f => .error f
    | .ok t =>
      match value room t with
      | .ok (v, ⟨r', _⟩) =>
        members room outer (done.insert k v) false r' (by
          have := length_string _hk
          have := length_takeColon _hc
          omega)
      | .error f => .error f
termination_by 2 * s.length + 2
decreasing_by
  all_goals
    have := length_string _hk
    have := length_takeColon _hc
    omega

end

/-- How deep lists and objects may be nested in a text. -/
def depth : Nat := 127

/-- Nothing but blanks is left. -/
def atEnd (s : Bytes) : Except Fault Unit :=
  match skipBlanks s with
  | [] => .ok ()
  | b :: r => .error (.next .trailingCharacters (b :: r))

/-- The value that a text holds. -/
def parse (text : Bytes) : Except TextError Json :=
  match value depth text with
  | .error f => .error (f.locate text)
  | .ok (v, r) =>
    match atEnd r with
    | .ok () => .ok v
    | .error f => .error (f.locate text)

end RemoteJobs.Json
