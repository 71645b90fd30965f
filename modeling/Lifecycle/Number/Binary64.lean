import Lifecycle.Number.Exact

namespace Lifecycle

/-- A binary floating-point number of 53 significant bits: `mantissa * 2 ^ exponent`, or an
infinity. Numbers below `2 ^ 52 * 2 ^ (-1074)` have the exponent `-1074`. What is no number is none of
these: it is told apart by which one it is, as `Value.nan`. -/
inductive Binary64 where
  | finite (negative : Bool) (mantissa : Nat) (exponent : Int)
  | infinite (negative : Bool)
  deriving DecidableEq

/-- The whole number nearest to `num / den`; of two, the even one. -/
def roundHalfEven (num den : Nat) : Nat :=
  let q := num / den
  let r := 2 * (num % den)
  if r < den then q else if r > den then q + 1 else if q % 2 = 0 then q else q + 1

namespace Binary64

def zero (negative : Bool) : Binary64 := .finite negative 0 (-1074)

def scaleDown (num den : Nat) (e : Int) : Nat × Nat :=
  if e < 0 then (num * twoTo e.natAbs, den) else (num, den * twoTo e.natAbs)

/-- The exponent that leaves `num / den` between `2 ^ 52` and `2 ^ 53`, but never below the least. -/
def fittingExponent (num den : Nat) : Int :=
  let e : Int := (num.log2 : Int) - den.log2 - 52
  let (n, d) := scaleDown num den e
  max (if n < twoTo 52 * d then e - 1 else e) (-1074)

/-- The number nearest to `num / den`; of two, the one with an even mantissa. -/
def ofRatio (negative : Bool) (num den : Nat) : Binary64 :=
  if num = 0 then zero negative
  else
    let e := fittingExponent num den
    let (n, d) := scaleDown num den e
    let m := roundHalfEven n d
    let (m, e) := if m = twoTo 53 then (twoTo 52, e + 1) else (m, e)
    if 971 < e then .infinite negative else .finite negative m e

def ofDecimal (negative : Bool) (digits : Nat) (exponent : Int) : Binary64 :=
  let size : Int := (Nat.toDigits 10 digits).length
  if digits = 0 then zero negative
  else if size + exponent > 310 then .infinite negative
  else if size + exponent < -330 then zero negative
  else if exponent < 0 then ofRatio negative digits (tenTo exponent.natAbs)
  else ofRatio negative (digits * tenTo exponent.natAbs) 1

def isZero : Binary64 → Bool
  | .finite _ m _ => m = 0
  | .infinite _ => false

def exact (negative : Bool) (mantissa : Nat) (exponent : Int) : Exact :=
  let signed : Int := if negative then -(mantissa : Int) else mantissa
  if exponent < 0 then Exact.reduce signed exponent.natAbs
  else Exact.ofInt (signed * twoTo exponent.natAbs)

def toExact? : Binary64 → Option Exact
  | .finite negative m e => some (exact negative m e)
  | .infinite _ => none

/-- The number nearest to the sum of an exact value and one. -/
def succ (x : Binary64) : Binary64 :=
  match x.toExact? with
  | some v =>
    let sum := v.num + twoTo v.twos
    ofRatio (sum < 0) sum.natAbs (twoTo v.twos)
  | none => x

end Binary64

end Lifecycle
