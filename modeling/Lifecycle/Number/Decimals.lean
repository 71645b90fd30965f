import Lifecycle.Number.Shortest

namespace Lifecycle.Decimals

/-- The whole number nearest to `mantissa * 2 ^ exponent * 10 ^ places`; of two, the even one. -/
def scaled (mantissa : Nat) (exponent places : Int) : Nat :=
  roundHalfEven (mantissa * twoTo exponent.toNat * tenTo places.toNat)
    (twoTo (-exponent).toNat * tenTo (-places).toNat)

def withPoint (keepPoint : Bool) (digits places : Nat) : String :=
  let ds := Nat.toDigits 10 digits
  let ds := List.replicate (places + 1 - ds.length) '0' ++ ds
  let whole := String.ofList (ds.take (ds.length - places))
  if places = 0 then whole ++ (if keepPoint then "." else "")
  else whole ++ "." ++ String.ofList (ds.drop (ds.length - places))

def fixed (keepPoint : Bool) (mantissa : Nat) (exponent : Int) (places : Nat) : String :=
  withPoint keepPoint (scaled mantissa exponent places) places

def significant (mantissa : Nat) (exponent : Int) (count : Nat) : Nat × Int :=
  if mantissa = 0 then (0, 0)
  else
    let power := (Shortest.Interval.of mantissa exponent).point - 1
    let ds := scaled mantissa exponent (count - 1 - power)
    if ds = tenTo count then (ds / 10, power + 1) else (ds, power)

def exponentText (power : Int) : String :=
  let size := Nat.toDigits 10 power.natAbs
  (if power < 0 then "e-" else "e+") ++
    String.ofList (List.replicate (2 - size.length) '0' ++ size)

def scientific (keepPoint : Bool) (mantissa : Nat) (exponent : Int) (places : Nat) : String :=
  let (ds, power) := significant mantissa exponent (places + 1)
  withPoint keepPoint ds places ++ exponentText power

def withoutTrailingZeros (s : String) : String :=
  if s.contains '.' then
    match s.toList.reverse.dropWhile (· = '0') with
    | '.' :: whole => String.ofList whole.reverse
    | ds => String.ofList ds.reverse
  else s

/-- A number with a given count of significant digits: positional where the power of ten is at least
-4 and less than the count, without zeros at the end unless they are to be kept. -/
def general (keepZeros : Bool) (mantissa : Nat) (exponent : Int) (count : Nat) : String :=
  let count := max count 1
  let (ds, power) := significant mantissa exponent count
  let trim (s : String) := if keepZeros then s else withoutTrailingZeros s
  if -4 ≤ power ∧ power < count then
    let places := (count - 1 - power).toNat
    trim (withPoint keepZeros ds places)
  else trim (withPoint keepZeros ds (count - 1)) ++ exponentText power

end Lifecycle.Decimals
