import RemoteJobs.Frame.Basic

/-!
# Writing frames

A sink takes at most `step` bytes at a time, and `room` bytes in all. A writer
offers what is left until the sink has taken everything, and fails when the
sink takes nothing of it. So of a frame that fails some bytes may have been
taken all the same.
-/

namespace RemoteJobs.Frame

structure Sink where
  step : Nat
  room : Nat
  /-- What the sink has taken. -/
  taken : Bytes := []

namespace Sink

/-- How many of `n` bytes the sink takes when they are offered. -/
def accepts (k : Sink) (n : Nat) : Nat := min n (min k.step k.room)

/-- The sink after it has taken bytes. -/
def store (k : Sink) (s : Bytes) : Sink :=
  { k with room := k.room - s.length, taken := k.taken ++ s }

/-- Offers bytes until all of them are taken. -/
def writeAll (k : Sink) (s : Bytes) : Except Failure Unit × Sink :=
  let n := k.accepts s.length
  if s.length = 0 then (.ok (), k)
  else if n = 0 then (.error (.io "write zero"), k)
  else (k.store (s.take n)).writeAll (s.drop n)
termination_by s.length
decreasing_by
  simp only [List.length_drop]
  omega

/-- Writes a frame, first its header. -/
def writeFrame (k : Sink) (payload : Bytes) : Except Failure Unit × Sink :=
  match header payload.length with
  | .error e => (.error e, k)
  | .ok h =>
    match k.writeAll h with
    | (.error e, k) => (.error e, k)
    | (.ok (), k) => k.writeAll payload

/-- Writes frames, each whether those before it were written or not. -/
def writeFrames (k : Sink) : List Bytes → List (Except Failure Unit) × Sink
  | [] => ([], k)
  | p :: ps =>
    let (r, k) := k.writeFrame p
    let (rs, k) := k.writeFrames ps
    (r :: rs, k)

end Sink

end RemoteJobs.Frame
