import Lifecycle.Number.Binary64

/-!
Arithmetic as operators name it, on whole numbers and on floating-point numbers.
-/

namespace Lifecycle

namespace Arithmetic

def operations : List String := ["add", "sub", "mul", "mod", "divmod", "floordiv", "truediv", "pow",
  "and", "or", "xor", "lshift", "rshift"]

/-- The operation that an operator stands for, and whether its operand comes first. -/
def ofName? (name : String) : Option (String × Bool) :=
  let core := ((name.toList.drop 2).dropLast).dropLast
  if operations.contains (String.ofList core) then some (String.ofList core, false)
  else match core with
    | 'r' :: rest =>
      if operations.contains (String.ofList rest) then some (String.ofList rest, true) else none
    | _ => none

/-- An operation on the bits of two numbers, of which those below zero have ones without end. -/
def bitwise (f : {w : Nat} → BitVec w → BitVec w → BitVec w) (a b : Int) : Int :=
  let w := max a.natAbs.log2 b.natAbs.log2 + 2
  (f (BitVec.ofInt w a) (BitVec.ofInt w b)).toInt

/-- A power by squaring, within the numbers below a modulus. The fuel bounds the exponent's length. -/
def powerWithin (modulus : Int) : Nat → Int → Nat → Int
  | 0, _, _ => Int.fmod 1 modulus
  | fuel + 1, base, n =>
    if n = 0 then Int.fmod 1 modulus
    else
      let rest := powerWithin modulus fuel (Int.fmod (base * base) modulus) (n / 2)
      if n % 2 = 1 then Int.fmod (base * rest) modulus else rest

/-- Divides two numbers by each other until nothing is left: what the first is multiplied by, in the sum
of multiples of both that is their divisor. The fuel bounds the steps. -/
def divisorFactor : Nat → Int → Int → Int → Int → Int
  | 0, _, factor, _, _ => factor
  | fuel + 1, r, factor, rest, next =>
    if rest = 0 then factor
    else divisorFactor fuel rest next (Int.fmod r rest) (factor - Int.fdiv r rest * next)

def inverse? (a modulus : Int) : Option Int :=
  if Int.gcd a modulus = 1 then
    let size : Int := modulus.natAbs
    some (Int.fmod (divisorFactor (2 * modulus.natAbs.log2 + 4) (Int.fmod a size) 1 size 0) modulus)
  else none

/-- The multiple of a unit that lies nearest; of two, the even multiple. -/
def nearestMultiple (n : Int) (unit : Nat) : Int :=
  let nearest : Int := roundHalfEven n.natAbs unit * unit
  if n < 0 then -nearest else nearest

end Arithmetic

namespace Binary64

def toFloat : Binary64 → Float
  | .infinite negative => .ofBits (UInt64.ofNat (signBit negative + 0x7ff * twoTo 52))
  | .finite negative m e =>
    .ofBits (UInt64.ofNat (signBit negative +
      if m < twoTo 52 then m else (e + 1075).toNat * twoTo 52 + (m - twoTo 52)))
where
  signBit (negative : Bool) : Nat := if negative then twoTo 63 else 0

def ofFloat? (x : Float) : Option Binary64 :=
  let bits := x.toBits.toNat
  let negative := twoTo 63 ≤ bits
  let size := bits % twoTo 63
  let high := size / twoTo 52
  let low := size % twoTo 52
  if high = 0x7ff then (if low = 0 then some (.infinite negative) else none)
  else if high = 0 then some (.finite negative low (-1074))
  else some (.finite negative (low + twoTo 52) (high - 1075))

def isNegative : Binary64 → Bool
  | .finite negative .. | .infinite negative => negative

def isWhole (x : Binary64) : Bool := (x.toExact?.map Exact.isWhole).getD true

/-- How often a number goes into another, as a whole number, and what is left of the other, which has the
sign of the number. Both are nearest to their values. What is infinite cannot be divided. -/
def divided? (x y : Binary64) : Option (Binary64 × Binary64) :=
  match x.toExact?, y.toExact?, y with
  | some a, some b, _ =>
    let num := a.num * twoTo b.twos
    let den := b.num * twoTo a.twos
    let count := Int.fdiv num den
    let left := Int.fmod num den
    some (ofRatio (count < 0) count.natAbs 1,
      ofRatio (y.isNegative) left.natAbs (twoTo (a.twos + b.twos)))
  | some _, none, y =>
    if x.isZero || x.isNegative = y.isNegative then some (zero false, x)
    else some (ofRatio true 1 1, y)
  | none, _, _ => none

end Binary64

end Lifecycle
