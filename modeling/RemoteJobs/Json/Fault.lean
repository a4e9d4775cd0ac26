import RemoteJobs.Schema.Mismatch

/-!
# Faults of a text

A reader that fails says what is wrong and how many bytes it had left, from
which the line and the column follow. Some faults are noticed at the byte that
the reader has taken last, others at the next one, which it has only seen;
`ahead` tells them apart.
-/

namespace RemoteJobs.Json

inductive Cause where
  | endInValue
  | endInString
  | endInList
  | endInObject
  | expectedValue
  | expectedIdent
  | expectedListEnd
  | expectedObjectEnd
  | expectedColon
  | keyNotString
  | trailingComma
  | trailingCharacters
  | invalidNumber
  | numberOutOfRange
  | controlCharacter
  | invalidEscape
  | loneSurrogate
  | endOfEscape
  /-- Bytes that are not UTF-8, `beyond` of them from the first wrong one to
  the end of the string. -/
  | notUtf8 (beyond : Nat)
  | tooDeep
  | mismatch (m : Schema.Mismatch)

def Cause.message : Cause → String
  | .endInValue => "EOF while parsing a value"
  | .endInString => "EOF while parsing a string"
  | .endInList => "EOF while parsing a list"
  | .endInObject => "EOF while parsing an object"
  | .expectedValue => "expected value"
  | .expectedIdent => "expected ident"
  | .expectedListEnd => "expected `,` or `]`"
  | .expectedObjectEnd => "expected `,` or `\x7d`"
  | .expectedColon => "expected `:`"
  | .keyNotString => "key must be a string"
  | .trailingComma => "trailing comma"
  | .trailingCharacters => "trailing characters"
  | .invalidNumber => "invalid number"
  | .numberOutOfRange => "number out of range"
  | .controlCharacter => "control character (\\u0000-\\u001F) found while parsing a string"
  | .invalidEscape => "invalid escape"
  | .loneSurrogate => "lone leading surrogate in hex escape"
  | .endOfEscape => "unexpected end of hex escape"
  | .notUtf8 _ => "invalid unicode code point"
  | .tooDeep => "recursion limit exceeded"
  | .mismatch m => m.message

/-- A fault noticed with `left` bytes still to take. -/
structure Fault where
  cause : Cause
  left : Nat
  ahead : Bool

/-- A fault at the bytes taken so far. -/
def Fault.here (cause : Cause) (rest : Bytes) : Fault := ⟨cause, rest.length, false⟩

/-- A fault at the next byte. -/
def Fault.next (cause : Cause) (rest : Bytes) : Fault := ⟨cause, rest.length, true⟩

/-- A fault and where in the text it is. Lines count from one; the column is
the number of bytes from the start of the line to the place. -/
structure TextError where
  cause : Cause
  line : Nat
  column : Nat

/-- The line and the column after some bytes. -/
def position (s : Bytes) : Nat × Nat :=
  s.foldl (fun (line, column) b => if b = ascii '\n' then (line + 1, 0) else (line, column + 1)) (1, 0)

def Fault.locate (text : Bytes) (f : Fault) : TextError :=
  let (line, column) :=
    position (text.take (text.length - f.left + if f.ahead then 1 else 0))
  match f.cause with
  | .notUtf8 beyond => ⟨f.cause, line, column - beyond⟩
  | cause => ⟨cause, line, column⟩

def TextError.message (e : TextError) : String :=
  s!"{e.cause.message} at line {Decimal.natText e.line} column {Decimal.natText e.column}"

end RemoteJobs.Json
