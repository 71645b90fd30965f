import Lifecycle.Document.Scan
import Lifecycle.Number.Extended
import Lifecycle.Number.Shortest

namespace Lifecycle.RealText

/-- Significant digits that have been read, and the power of ten they are to be taken by. -/
structure Scaled where
  digits : Nat
  power : Int
  deriving DecidableEq

def digitsLimit : Nat := 922337203685477579

/-- Takes up a digit before the point. One that is left out still counts as a place. -/
def Scaled.whole (s : Scaled) (c : Char) : Scaled :=
  if s.digits < digitsLimit then { s with digits := 10 * s.digits + Document.digitValue c }
  else { s with power := s.power + 1 }

def Scaled.fraction (s : Scaled) (c : Char) : Scaled :=
  if s.digits < digitsLimit then ⟨10 * s.digits + Document.digitValue c, s.power - 1⟩ else s

/-- An exponent's digits, which no longer count once they come to ten thousand. -/
def exponent (ds : List Char) : Nat :=
  ds.foldl (fun n c => if n < 10000 then 10 * n + Document.digitValue c else 10000) 0

def moveUp : Nat → Nat → Nat × Nat
  | digits, 0 => (digits, 0)
  | digits, n + 1 =>
    if 922337203685477580 ≤ digits then (digits, n + 1) else moveUp (digits * 10) n

def moveDown : Nat → Nat → Nat × Nat
  | digits, 0 => (digits, 0)
  | digits, n + 1 => if digits % 10 ≠ 0 then (digits, n + 1) else moveDown (digits / 10) n

def constant (digits : Nat) (exponent : Int) : Extended :=
  Extended.ofBinary64 (Binary64.ofDecimal false digits exponent)

def short (x : Extended) : Extended := Extended.ofBinary64 (x.toBinary64 false)

/-- A whole number times a power of ten. Beyond `10 ^ 307` the power is taken in two steps. -/
def multipliedBy (negative : Bool) (digits power : Nat) : Binary64 :=
  let d := Extended.ofNat digits
  if power = 0 then d.toBinary64 negative
  else if 342 ≤ power then .infinite negative
  else if 307 < power then
    (short (d.mul (Extended.tenTo (power - 308)))).shortProduct negative (constant 1 308)
  else (d.mul (Extended.tenTo power)).toBinary64 negative

def dividedBy (negative : Bool) (digits power : Nat) : Binary64 :=
  let d := Extended.ofNat digits
  if power = 0 then d.toBinary64 negative
  else if 342 ≤ power then Binary64.zero negative
  else if 307 < power then
    (short (d.div (Extended.tenTo (power - 308)))).shortQuotient negative (constant 1 308)
  else (d.div (Extended.tenTo power)).toBinary64 negative

def Scaled.value (negative : Bool) (s : Scaled) : Binary64 :=
  if s.digits = 0 then Binary64.zero negative
  else if 0 ≤ s.power then
    let (digits, power) := moveUp s.digits s.power.toNat
    multipliedBy negative digits power
  else
    let (digits, power) := moveDown s.digits s.power.natAbs
    dividedBy negative digits power

/-- The number that digits around a point and an exponent come to, in numbers of 64 significant bits. It
may be a neighbour of the nearest one. -/
def read (negative : Bool) (whole fraction : List Char) (exponent : Int) : Binary64 :=
  let s := fraction.foldl Scaled.fraction (whole.foldl Scaled.whole ⟨0, 0⟩)
  ({ s with power := s.power + exponent } : Scaled).value negative

def raise (x factor : Extended) (power : Int) : Nat → Extended × Int → Extended × Int
  | 0, scale => scale
  | fuel + 1, (scale, n) =>
    let next := factor.mul scale
    if next.le x then raise x factor power fuel (next, n + power) else (scale, n)

def lift (bound factor : Extended) (power : Int) : Nat → Extended × Int → Extended × Int
  | 0, x => x
  | fuel + 1, (x, n) =>
    if bound.le x then (x, n) else lift bound factor power fuel (x.mul factor, n - power)

def normal (x : Extended) : Extended × Int :=
  let (scale, power) := raise x (constant 1 1) 1 10 (raise x (constant 1 10) 10 10
    (raise x (constant 1 100) 100 4 (Extended.ofNat 1, 0)))
  lift (Extended.ofNat 1) (constant 1 1) 1 10
    (lift (constant 1 (-8)) (constant 1 8) 8 41 (x.div scale, power))

def halfDigit : Extended :=
  Extended.ofBinary64 ((constant 5 (-5)).shortProduct false (constant 1 (-10)))

def rounded (x : Extended × Int) : Extended × Int :=
  let y := x.1.add halfDigit
  if (Extended.ofNat 10).le y then (y.mul (constant 1 (-1)), x.2 + 1) else (y, x.2)

def leading : Nat → Extended → List Char
  | 0, _ => []
  | count + 1, x => Nat.digitChar x.floor :: leading count (x.fraction.mul (Extended.ofNat 10))

def withoutZeros (ds : List Char) : List Char :=
  match (ds.reverse.dropWhile (· = '0')).reverse with
  | [] => ['0']
  | ds => ds

/-- Digits around a point: positional from `10 ^ (-4)` up to `10 ^ 15`, otherwise with an exponent of at
least two digits. -/
def layout (ds : List Char) (power : Int) : List Char :=
  if power < -4 || 14 < power then
    let size := Nat.toDigits 10 power.natAbs
    ds.take 1 ++ ['.'] ++ withoutZeros (ds.drop 1) ++ ['e', if power < 0 then '-' else '+'] ++
      List.replicate (2 - size.length) '0' ++ size
  else if power < 0 then
    ['0', '.'] ++ withoutZeros (List.replicate (power.natAbs - 1) '0' ++ ds)
  else ds.take (power.toNat + 1) ++ ['.'] ++ withoutZeros (ds.drop (power.toNat + 1))

/-- Fifteen significant digits without zeros at the end, always with a point. They may be off by one in
the last place. -/
def write : Binary64 → String
  | .infinite negative => if negative then "-Inf" else "Inf"
  | .finite negative m e =>
    if m = 0 then "0.0"
    else
      let (x, power) := rounded (normal ⟨m, e⟩)
      (if negative then "-" else "") ++ String.ofList (layout (leading 15 x) power)

end Lifecycle.RealText
