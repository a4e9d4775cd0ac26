/-!
# Bytes

Everything that travels between the client and the server is a list of bytes.
This module holds the type, the written form in hexadecimal, and numbers of
four bytes with the most significant byte first.
-/

namespace RemoteJobs

abbrev Bytes := List UInt8

/-- The byte of an ASCII character. -/
def ascii (c : Char) : UInt8 := UInt8.ofNat c.toNat

namespace Bytes

/-- The character of a hexadecimal digit; letters are small. -/
def hexDigit (n : Nat) : Char :=
  Char.ofNat (if n < 10 then 48 + n else 87 + n)

/-- The value of a hexadecimal digit, in letters of either case. -/
def hexValue? (b : UInt8) : Option Nat :=
  let n := b.toNat
  if 48 ≤ n ∧ n ≤ 57 then some (n - 48)
  else if 97 ≤ n ∧ n ≤ 102 then some (n - 87)
  else if 65 ≤ n ∧ n ≤ 70 then some (n - 55)
  else none

/-- Two digits a byte. -/
def toHex (s : Bytes) : String :=
  String.ofList (s.flatMap fun b => [hexDigit (b.toNat / 16), hexDigit (b.toNat % 16)])

/-- Reads what `toHex` writes, in letters of either case. -/
def ofHex? : List Char → Option Bytes
  | [] => some []
  | [_] => none
  | a :: b :: r => do
    let x ← hexValue? (ascii a)
    let y ← hexValue? (ascii b)
    let s ← ofHex? r
    return UInt8.ofNat (16 * x + y) :: s

/-- A number below `2 ^ 32` in four bytes, most significant first. -/
def ofWord (n : Nat) : Bytes :=
  [UInt8.ofNat (n / 16777216), UInt8.ofNat (n / 65536), UInt8.ofNat (n / 256), UInt8.ofNat n]

/-- The number that bytes write, most significant first. -/
def toNumber (s : Bytes) : Nat :=
  s.foldl (fun n b => 256 * n + b.toNat) 0

@[simp] theorem length_ofWord (n : Nat) : (ofWord n).length = 4 := rfl

theorem toNumber_ofWord {n : Nat} (h : n < 4294967296) : toNumber (ofWord n) = n := by
  simp only [toNumber, ofWord, List.foldl_cons, List.foldl_nil, UInt8.toNat_ofNat']
  omega

end Bytes

end RemoteJobs
