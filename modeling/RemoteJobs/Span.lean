import RemoteJobs.Decimal.Digits

/-!
# Spans of time

A span counts nanoseconds. Its text has the largest of the units s, ms, µs and
ns that it fills at least once, with as many decimal places as it needs.
-/

namespace RemoteJobs

structure Span where
  nanos : Nat
  deriving DecidableEq

namespace Span

def ofMillis (n : Nat) : Span := ⟨n * 1000000⟩

def ofSeconds (n : Nat) : Span := ⟨n * 1000000000⟩

/-- The longest span: no more whole seconds than a word of 64 bits holds. -/
def longest : Span := ⟨18446744073709551616 * 1000000000 - 1⟩

/-- The whole seconds. -/
def seconds (s : Span) : Nat := s.nanos / 1000000000

/-- The nanoseconds beyond the whole seconds. -/
def beyondSeconds (s : Span) : Nat := s.nanos % 1000000000

/-- The whole milliseconds, as far as a word of 64 bits counts them. -/
def millis (s : Span) : Nat := min (s.nanos / 1000000) 18446744073709551615

/-- A number of `places` digits, without the zeros at its end. -/
def fraction (places n : Nat) : List Char :=
  let ds := Decimal.natChars n
  let padded := List.replicate (places - ds.length) '0' ++ ds
  (padded.reverse.dropWhile (· = '0')).reverse

/-- A count of nanoseconds in a unit of `10 ^ places` of them. -/
def inUnit (nanos places : Nat) (unit : String) : String :=
  let whole := Decimal.natText (nanos / Nat.pow 10 places)
  match fraction places (nanos % Nat.pow 10 places) with
  | [] => whole ++ unit
  | ds => whole ++ "." ++ String.ofList ds ++ unit

def text (s : Span) : String :=
  if 1000000000 ≤ s.nanos then inUnit s.nanos 9 "s"
  else if 1000000 ≤ s.nanos then inUnit s.nanos 6 "ms"
  else if 1000 ≤ s.nanos then inUnit s.nanos 3 "µs"
  else inUnit s.nanos 0 "ns"

end Span

end RemoteJobs
