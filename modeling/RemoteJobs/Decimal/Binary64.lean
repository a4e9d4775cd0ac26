/-!
# Numbers of binary64

A finite number of the 64-bit binary format is `mantissa * 2 ^ exponent` with
a sign; the mantissa has at most 53 bits, and fewer only at the least
exponent, so every number has one representation. Zero keeps its sign.

`ofRatio` rounds a quotient of naturals to the nearest such number, ties to
the even mantissa, and answers nothing when the quotient is too large.
`ofDecimal` turns a decimal significand and a power of ten into a number by
one multiplication or by divisions, each rounded; the result may therefore be
a neighbour of the nearest number.
-/

namespace RemoteJobs

structure Binary64 where
  negative : Bool
  mantissa : Nat
  exponent : Int
  mantissa_lt : mantissa < 9007199254740992
  le_exponent : -1074 ≤ exponent
  exponent_le : exponent ≤ 971
  normal : 4503599627370496 ≤ mantissa ∨ exponent = -1074
  deriving DecidableEq, Repr

namespace Binary64

/-- The number with these parts, if they are the parts of one. -/
def ofParts? (negative : Bool) (mantissa : Nat) (exponent : Int) : Option Binary64 :=
  if h : mantissa < 9007199254740992 ∧ -1074 ≤ exponent ∧ exponent ≤ 971 ∧
      (4503599627370496 ≤ mantissa ∨ exponent = -1074) then
    some ⟨negative, mantissa, exponent, h.1, h.2.1, h.2.2.1, h.2.2.2⟩
  else none

def zero (negative : Bool) : Binary64 :=
  ⟨negative, 0, -1074, by decide, by decide, by decide, by decide⟩

def isZero (x : Binary64) : Bool := x.mantissa = 0

def withSign (negative : Bool) (x : Binary64) : Binary64 := { x with negative }

/-- The absolute value as a quotient. -/
def ratio (x : Binary64) : Nat × Nat :=
  if 0 ≤ x.exponent then (x.mantissa * Nat.pow 2 x.exponent.toNat, 1)
  else (x.mantissa, Nat.pow 2 (-x.exponent).toNat)

/-- The integer nearest to a quotient, of two the even one. -/
def roundHalfEven (num den : Nat) : Nat :=
  let q := num / den
  let r := num % den
  if 2 * r < den ∨ (2 * r = den ∧ q % 2 = 0) then q else q + 1

/-- A quotient divided by a power of two. -/
def scaleDown (num den : Nat) (q : Int) : Nat × Nat :=
  if 0 ≤ q then (num, den * Nat.pow 2 q.toNat) else (num * Nat.pow 2 (-q).toNat, den)

/-- The greatest `e` with `2 ^ e ≤ num / den`, for positive `num` and `den`. -/
def floorLog (num den : Nat) : Int :=
  let e : Int := (Nat.log2 num : Int) - Nat.log2 den
  let (n, d) := scaleDown num den e
  if n < d then e - 1 else e

/-- The nearest number to a quotient; nothing when that is out of range. -/
def ofRatio (negative : Bool) (num den : Nat) : Option Binary64 :=
  if num = 0 then some (zero negative)
  else
    let q := max (floorLog num den - 52) (-1074)
    let (n, d) := scaleDown num den q
    let m := roundHalfEven n d
    if m = 9007199254740992 then ofParts? negative 4503599627370496 (q + 1)
    else ofParts? negative m q

/-- The number nearest to a power of ten. -/
def powerOfTen (k : Nat) : Option Binary64 := ofRatio false (Nat.pow 10 k) 1

/-- The product, rounded; the sign is that of the first factor. -/
def mul (x y : Binary64) : Option Binary64 :=
  ofRatio x.negative (x.ratio.1 * y.ratio.1) (x.ratio.2 * y.ratio.2)

/-- The quotient by a number other than zero, rounded, with the sign of the
first operand. -/
def div (x y : Binary64) : Option Binary64 :=
  ofRatio x.negative (x.ratio.1 * y.ratio.2) (x.ratio.2 * y.ratio.1)

/-- A number times a power of ten. Powers up to `10 ^ 308` are taken in one
step; a greater one is out of range unless the number is zero, and a smaller
one is reached in steps of `10 ^ 308`. -/
def scale (x : Binary64) (e : Int) : Option Binary64 :=
  if 0 ≤ e then
    if x.isZero then some x
    else if e ≤ 308 then do mul x (← powerOfTen e.toNat)
    else none
  else if -308 ≤ e then do div x (← powerOfTen (-e).toNat)
  else if x.isZero then some x
  else do
    let y ← div x (← powerOfTen 308)
    scale y (e + 308)
termination_by (-e).toNat

/-- The number for a decimal significand and exponent. -/
def ofDecimal (negative : Bool) (significand : Nat) (exponent : Int) : Option Binary64 := do
  let x ← ofRatio false significand 1
  return (← scale x exponent).withSign negative

end Binary64

end RemoteJobs
