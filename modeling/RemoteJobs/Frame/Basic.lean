import RemoteJobs.Failure
import RemoteJobs.Bytes

/-!
# Frames

On a stream every payload follows its length, a number of four bytes with the
most significant first. The largest number is no length: it marks a frame
without content, which is read as an empty payload.
-/

namespace RemoteJobs.Frame

def headerSize : Nat := 4

/-- The mark of a frame without content. -/
def nullMark : Nat := 4294967295

/-- The header of a payload of `n` bytes. -/
def header (n : Nat) : Except Failure Bytes :=
  if n < nullMark then .ok (Bytes.ofWord n)
  else .error (.protocol s!"Frame of {Decimal.natText n} bytes exceeds u32 length")

/-- A payload as it stands on the stream. -/
def encode (payload : Bytes) : Except Failure Bytes :=
  (header payload.length).map (· ++ payload)

end RemoteJobs.Frame
