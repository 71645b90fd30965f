import Lifecycle.Number.Binary64

namespace Lifecycle.Shortest

/-- Significant digits and the position of the point: `0.digits * 10 ^ point`. -/
structure Decimal where
  digits : Nat
  point : Int
  deriving DecidableEq

/-- A finite number and the ends of the interval that reads back as it, in quarters of its last
binary place. -/
structure Interval where
  low : Nat
  middle : Nat
  high : Nat
  closed : Bool
  exponent : Int

/-- The lower end is nearer where the next number below has a finer last place. -/
def Interval.of (mantissa : Nat) (exponent : Int) : Interval where
  low := if mantissa = twoTo 52 ∧ exponent ≠ -1074 then 4 * mantissa - 1 else 4 * mantissa - 2
  middle := 4 * mantissa
  high := 4 * mantissa + 2
  closed := mantissa % 2 = 0
  exponent := exponent - 2

/-- Factors `(p, q)` such that `c * 10 ^ place` compares with `x * 2 ^ exponent` as `c * p` with
`x * q`. -/
def Interval.factors (i : Interval) (place : Int) : Nat × Nat :=
  (tenTo place.toNat * twoTo (-i.exponent).toNat, twoTo i.exponent.toNat * tenTo (-place).toNat)

def Interval.holds (i : Interval) (p q c : Nat) : Bool :=
  if i.closed then i.low * q ≤ c * p && c * p ≤ i.high * q
  else i.low * q < c * p && c * p < i.high * q

def Interval.point (i : Interval) : Int :=
  let (p, q) := i.factors (-330)
  ((Nat.toDigits 10 (i.middle * q / p)).length : Int) - 330

def Interval.nearest? (i : Interval) (point : Int) (n : Nat) : Option Nat :=
  let (p, q) := i.factors (point - n)
  let c := i.middle * q / p
  let below := i.holds p q c
  let above := i.holds p q (c + 1)
  let gapBelow := i.middle * q - c * p
  let gapAbove := (c + 1) * p - i.middle * q
  if below && above then
    some (if gapBelow < gapAbove then c else if gapAbove < gapBelow then c + 1
      else if c % 2 = 0 then c else c + 1)
  else if below then some c
  else if above then some (c + 1)
  else none

/-- The fewest digits that read back; among those the nearest. -/
def decimal (mantissa : Nat) (exponent : Int) : Decimal :=
  let i := Interval.of mantissa exponent
  let point := i.point
  match (List.range 17).findSome? fun k => (i.nearest? point (k + 1)).map fun c => (c, k + 1) with
  | some (c, n) => if c = tenTo n then ⟨1, point + 1⟩ else ⟨c, point⟩
  | none => ⟨mantissa, point⟩

end Lifecycle.Shortest

namespace Lifecycle.Binary64

/-- Positional from `10 ^ (-4)` up to `10 ^ 16`, always with a point; otherwise one digit before the
point and an exponent with its sign and at least two digits. -/
def layout (d : Shortest.Decimal) : String :=
  let digits := Nat.toDigits 10 d.digits
  let count : Int := digits.length
  let text (cs : List Char) := String.ofList cs
  let zeros (n : Int) := List.replicate n.toNat '0'
  if -3 ≤ d.point ∧ d.point ≤ 16 then
    if d.point ≤ 0 then "0." ++ text (zeros (-d.point) ++ digits)
    else if count ≤ d.point then text (digits ++ zeros (d.point - count)) ++ ".0"
    else text (digits.take d.point.toNat) ++ "." ++ text (digits.drop d.point.toNat)
  else
    let power := d.point - 1
    let size := Nat.toDigits 10 power.natAbs
    let size := if size.length < 2 then '0' :: size else size
    let rest := digits.drop 1
    text (digits.take 1) ++ (if rest.isEmpty then "" else "." ++ text rest) ++
      (if power < 0 then "e-" else "e+") ++ text size

def toText : Binary64 → String
  | .infinite negative => if negative then "-inf" else "inf"
  | .finite negative m e =>
    (if negative then "-" else "") ++
      (if m = 0 then "0.0" else layout (Shortest.decimal m e))

end Lifecycle.Binary64
