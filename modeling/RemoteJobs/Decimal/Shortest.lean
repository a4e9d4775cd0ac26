import RemoteJobs.Decimal.Binary64
import RemoteJobs.Decimal.Digits

/-!
# The shortest decimal that reads back

Among the decimals that lie closer to a number than to any other, or half way
when the number's mantissa is even, `shortest` takes one with the fewest
digits, of those the nearest, and of two equally near the one with the even
last digit. A number is compared with decimals exactly, as quotients of
naturals.

`Layout` says how such a decimal is written: which exponents are written out
with a point and which with a mark.
-/

namespace RemoteJobs.Decimal

/-- The decimal `significand * 10 ^ power`. -/
structure Scaled where
  significand : Nat
  power : Int
  deriving DecidableEq, Repr

/-- A quotient divided by a power of ten. -/
def scaleDown (num den : Nat) (k : Int) : Nat × Nat :=
  if 0 ≤ k then (num, den * Nat.pow 10 k.toNat) else (num * Nat.pow 10 (-k).toNat, den)

/-- The greatest `e` with `10 ^ e ≤ num / den`, for positive `num` and `den`. -/
def floorLog (num den : Nat) : Int :=
  let e : Int := ((digits num).length : Int) - (digits den).length
  let (n, d) := scaleDown num den e
  if n < d then e - 1 else e

/-- The reals that read back to a number: those between `low / den` and
`high / den`, the ends included when `closed`; the number is `value / den`. -/
structure Interval where
  low : Nat
  value : Nat
  high : Nat
  den : Nat
  closed : Bool

/-- The reals nearer to a number than to its neighbours. The neighbour below a
power of two is half as far as the one above. -/
def Interval.of (x : Binary64) : Interval :=
  let below := if x.mantissa = 4503599627370496 ∧ x.exponent ≠ -1074 then 1 else 2
  let closed := decide (x.mantissa % 2 = 0)
  if 0 ≤ x.exponent then
    let p := Nat.pow 2 x.exponent.toNat
    ⟨(4 * x.mantissa - below) * p, 4 * x.mantissa * p, (4 * x.mantissa + 2) * p, 4, closed⟩
  else
    ⟨4 * x.mantissa - below, 4 * x.mantissa, 4 * x.mantissa + 2, 4 * Nat.pow 2 (-x.exponent).toNat, closed⟩

def Interval.contains (i : Interval) (m : Nat) (k : Int) : Bool :=
  let (low, d) := scaleDown i.low i.den k
  let (high, _) := scaleDown i.high i.den k
  if i.closed then decide (low ≤ m * d ∧ m * d ≤ high) else decide (low < m * d ∧ m * d < high)

/-- The multiple of `10 ^ k` in the interval that is nearest to the number, if
there is one. Only the two neighbours of the number can be it. -/
def Interval.nearest? (i : Interval) (k : Int) : Option Nat :=
  let (v, d) := scaleDown i.value i.den k
  let m := v / d
  let up := decide (2 * (v % d) > d ∨ (2 * (v % d) = d ∧ m % 2 = 1))
  (if up then [m + 1, m] else [m, m + 1]).find? (i.contains · k)

/-- The shortest decimal for a number other than zero. Seventeen digits always
suffice. -/
def shortest (x : Binary64) : Scaled :=
  let i := Interval.of x
  let e := floorLog i.value i.den
  let hit := (List.range 17).findSome? fun (n : Nat) =>
    (i.nearest? (e - n)).map fun m => (⟨m, e - n⟩ : Scaled)
  hit.getD ⟨0, 0⟩

/-- How a decimal is written. With `e` the exponent of its first digit, it is
written out with a point when `least ≤ e ≤ greatest`, and otherwise as a
number below ten, the mark and the exponent with its sign. -/
structure Layout where
  least : Int
  greatest : Int
  mark : Char
  plus : List Char

/-- Exponents up to 15 and down to -5 are written out, and a positive exponent
has a plus sign. -/
def Layout.message : Layout := ⟨-5, 15, 'e', ['+']⟩

/-- Digits with a point before position `e + 1`, one zero at least on each
side. -/
def pointed (ds : List Char) (e : Int) : List Char :=
  if e < 0 then ['0', '.'] ++ List.replicate (-e - 1).toNat '0' ++ ds
  else
    let n := e.toNat + 1
    if ds.length ≤ n then ds ++ List.replicate (n - ds.length) '0' ++ ['.', '0']
    else ds.take n ++ '.' :: ds.drop n

/-- Digits with a point after the first, unless it is the only one, and the
exponent. -/
def marked (l : Layout) (ds : List Char) (e : Int) : List Char :=
  (match ds with
    | [] => []
    | [d] => [d]
    | d :: rest => d :: '.' :: rest)
    ++ l.mark :: (if 0 ≤ e then l.plus ++ intChars e else intChars e)

/-- A number as text. Zero is `0.0`, and a negative number has a minus sign,
zero too. -/
def Layout.write (l : Layout) (x : Binary64) : List Char :=
  let body :=
    if x.isZero then ['0', '.', '0']
    else
      let s := shortest x
      let ds := natChars s.significand
      let e := s.power + ds.length - 1
      let ds := ds.take (ds.length - (ds.reverse.takeWhile (· = '0')).length)
      if l.least ≤ e ∧ e ≤ l.greatest then pointed ds e else marked l ds e
  if x.negative then '-' :: body else body

end RemoteJobs.Decimal
