import RemoteJobs.Frame.Basic

/-!
# Reading frames

The reader of a stream is a machine that takes one byte at a time, so where the
stream is cut into pieces makes no difference. It gives a payload as soon as
its last byte is there. A length beyond the limit stops the reader: it takes no
notice of the bytes that follow.

`close` says what is wrong with a stream that ends here.
-/

namespace RemoteJobs.Frame

inductive Reader where
  /-- Inside a header; `got` holds the bytes of it. -/
  | header (got : Bytes)
  /-- Inside a payload with `missing` bytes still to come; `got` holds the
  others, the last one first. -/
  | payload (missing : Nat) (got : Bytes)
  | stopped (reason : Failure)

namespace Reader

/-- Between two frames. -/
def start : Reader := header []

/-- The reader after a length, and the payload if it is empty. -/
def ofLength (limit length : Nat) : Reader × Option Bytes :=
  if length = nullMark then (start, some [])
  else if limit < length then
    (stopped (.protocol (s!"Frame of {Decimal.natText length} bytes exceeds limit of "
      ++ s!"{Decimal.natText limit} bytes")), none)
  else if length = 0 then (start, some [])
  else (payload length [], none)

/-- Takes a byte, and gives the payload that it completes. -/
def take (limit : Nat) : Reader → UInt8 → Reader × Option Bytes
  | header got, b =>
    if got.length + 1 < headerSize then (header (got ++ [b]), none)
    else ofLength limit (Bytes.toNumber (got ++ [b]))
  | payload missing got, b =>
    if missing ≤ 1 then (start, some (b :: got).reverse)
    else (payload (missing - 1) (b :: got), none)
  | stopped reason, _ => (stopped reason, none)

/-- Takes bytes, and gives the payloads that they complete. -/
def feed (limit : Nat) : Reader → Bytes → Reader × List Bytes
  | r, [] => (r, [])
  | r, b :: s =>
    let (r, p) := r.take limit b
    let (r, ps) := feed limit r s
    (r, p.toList ++ ps)

/-- What is wrong with a stream that ends here. -/
def close : Reader → Option Failure
  | header [] => none
  | header got => some (.io
      (s!"stream ended after {Decimal.natText got.length} of {Decimal.natText headerSize} "
        ++ "header bytes"))
  | payload _ _ => some (.io "early eof")
  | stopped reason => some reason

end Reader

end RemoteJobs.Frame
