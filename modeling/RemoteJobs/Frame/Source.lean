import RemoteJobs.Frame.Reader

/-!
# Reading frames from a stream

A stream gives its bytes in pieces, as they arrive: a read gets at most as many
bytes as it asks for, but often fewer, and what is left of a piece is there for
the next read. No piece is empty, so a read that gets nothing is at the end.
Headers and payloads are therefore read piece by piece until they are whole.

Unlike `Reader`, which is given one byte after the other, `readFrame` asks for
what it needs and waits for it. What they make of a length is the same.
-/

namespace RemoteJobs.Frame

/-- What a stream still gives. -/
structure Source where
  pieces : List Bytes
  solid : ∀ p ∈ pieces, p ≠ []

namespace Source

/-- The stream that comes in pieces, of which the empty ones do not count. -/
def ofPieces (pieces : List Bytes) : Source :=
  ⟨pieces.filter (· ≠ []), fun _ h => by simpa using (List.mem_filter.mp h).2⟩

def bytes (src : Source) : Bytes := src.pieces.flatten

/-- One read of at most `n` bytes. -/
def read (n : Nat) : Source → Bytes × Source
  | ⟨[], h⟩ => ([], ⟨[], h⟩)
  | ⟨p :: ps, h⟩ =>
    if hle : p.length ≤ n then (p, ⟨ps, fun q hq => h q (List.mem_cons_of_mem p hq)⟩)
    else
      (p.take n, ⟨p.drop n :: ps, fun q hq => by
        rcases List.mem_cons.mp hq with rfl | hq
        · rw [ne_eq, List.drop_eq_nil_iff]
          exact hle
        · exact h q (List.mem_cons_of_mem p hq)⟩)

/-- Reads a header of which `got` is there already, and gives the length that it
says, or nothing if the stream ends before it. -/
def readHeader (got : Bytes) (src : Source) : Except Failure (Option Nat) × Source :=
  if got.length < headerSize then
    match src.read (headerSize - got.length) with
    | ([], src) =>
      match (Reader.header got).close with
      | none => (.ok none, src)
      | some e => (.error e, src)
    | (b :: s, src) => readHeader (got ++ b :: s) src
  else (.ok (some (Bytes.toNumber got)), src)
termination_by headerSize - got.length
decreasing_by
  simp only [List.length_append, List.length_cons]
  omega

/-- Reads `n` bytes behind those that are there already. -/
def readExact (got : Bytes) (n : Nat) (src : Source) : Except Failure Bytes × Source :=
  if n = 0 then (.ok got, src)
  else
    match src.read n with
    | ([], src) => (.error (.io "early eof"), src)
    | (b :: s, src) => readExact (got ++ b :: s) (n - (s.length + 1)) src
termination_by n
decreasing_by omega

/-- Reads the payload of the next frame, or nothing if the stream ends before
it. -/
def readFrame (limit : Nat) (src : Source) : Except Failure (Option Bytes) × Source :=
  match src.readHeader [] with
  | (.error e, src) => (.error e, src)
  | (.ok none, src) => (.ok none, src)
  | (.ok (some length), src) =>
    match Reader.ofLength limit length with
    | (.stopped reason, _) => (.error reason, src)
    | (_, some payload) => (.ok (some payload), src)
    | (_, none) =>
      match src.readExact [] length with
      | (.ok payload, src) => (.ok (some payload), src)
      | (.error e, src) => (.error e, src)

/-! ## How many bytes are read -/

theorem bytes_of_read {n : Nat} {src src' : Source} {s : Bytes} (h : src.read n = (s, src')) :
    src.bytes = s ++ src'.bytes := by
  match src with
  | ⟨[], _⟩ =>
      cases h
      rfl
  | ⟨p :: ps, _⟩ =>
      rw [read] at h
      split at h
      · cases h
        rfl
      · cases h
        simp only [bytes, List.flatten_cons, ← List.append_assoc, List.take_append_drop]

theorem length_readHeader {got : Bytes} {src src' : Source} {n : Nat}
    (h : src.readHeader got = (.ok (some n), src')) :
    src'.bytes.length + headerSize ≤ src.bytes.length + got.length := by
  fun_induction readHeader got src with
  | case1 => cases h
  | case2 => cases h
  | case3 got src _ b s src₁ hr ih =>
      have hlen := ih h
      rw [bytes_of_read hr]
      simp only [List.length_append] at hlen ⊢
      omega
  | case4 =>
      cases h
      omega

theorem length_readExact {got payload : Bytes} {n : Nat} {src src' : Source}
    (h : src.readExact got n = (.ok payload, src')) : src'.bytes.length ≤ src.bytes.length := by
  fun_induction readExact got n src with
  | case1 =>
      cases h
      exact Nat.le_refl _
  | case2 => cases h
  | case3 got n src _ b s src₁ hr ih =>
      have hlen := ih h
      rw [bytes_of_read hr, List.length_append]
      omega

theorem length_readFrame {limit : Nat} {src src' : Source} {payload : Bytes}
    (h : src.readFrame limit = (.ok (some payload), src')) :
    src'.bytes.length < src.bytes.length := by
  rw [readFrame] at h
  split at h
  · cases h
  · cases h
  · next length src₁ hheader =>
      have hlen := length_readHeader hheader
      rw [headerSize, List.length_nil] at hlen
      split at h
      · cases h
      · cases h
        omega
      · split at h
        · next hexact =>
            have hle := length_readExact hexact
            cases h
            omega
        · cases h

/-- Reads frames until the stream ends or a frame cannot be read: the payloads,
and why there are no more. -/
def readFrames (limit : Nat) (src : Source) : List Bytes × Option Failure :=
  match _h : src.readFrame limit with
  | (.ok (some payload), src') =>
    (payload :: (src'.readFrames limit).1, (src'.readFrames limit).2)
  | (.ok none, _) => ([], none)
  | (.error e, _) => ([], some e)
termination_by src.bytes.length
decreasing_by
  all_goals exact length_readFrame ‹_›

end Source

end RemoteJobs.Frame
