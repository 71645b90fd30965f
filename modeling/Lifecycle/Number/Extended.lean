import Lifecycle.Number.Binary64

namespace Lifecycle

/-- A binary floating-point number of 64 significant bits, not negative, with an exponent of any size:
`mantissa * 2 ^ exponent`. -/
structure Extended where
  mantissa : Nat
  exponent : Int
  deriving DecidableEq

namespace Extended

def ofRatio (num den : Nat) : Extended :=
  if num = 0 then ⟨0, 0⟩
  else
    let e : Int := (num.log2 : Int) - den.log2 - 63
    let (n, d) := Binary64.scaleDown num den e
    let e := if n < twoTo 63 * d then e - 1 else e
    let (n, d) := Binary64.scaleDown num den e
    ⟨roundHalfEven n d, e⟩

def ofNat (n : Nat) : Extended := ofRatio n 1

def ofBinary64 : Binary64 → Extended
  | .finite _ m e => ⟨m, e⟩
  | .infinite _ => ⟨0, 0⟩

def ratio (x : Extended) : Nat × Nat := (x.mantissa * twoTo x.exponent.toNat, twoTo (-x.exponent).toNat)

def toBinary64 (negative : Bool) (x : Extended) : Binary64 :=
  Binary64.ofRatio negative x.ratio.1 x.ratio.2

def add (x y : Extended) : Extended :=
  ofRatio (x.ratio.1 * y.ratio.2 + y.ratio.1 * x.ratio.2) (x.ratio.2 * y.ratio.2)

def mul (x y : Extended) : Extended := ofRatio (x.ratio.1 * y.ratio.1) (x.ratio.2 * y.ratio.2)

def div (x y : Extended) : Extended := ofRatio (x.ratio.1 * y.ratio.2) (x.ratio.2 * y.ratio.1)

/-- A product rounded once, to 53 bits. -/
def shortProduct (negative : Bool) (x y : Extended) : Binary64 :=
  Binary64.ofRatio negative (x.ratio.1 * y.ratio.1) (x.ratio.2 * y.ratio.2)

def shortQuotient (negative : Bool) (x y : Extended) : Binary64 :=
  Binary64.ofRatio negative (x.ratio.1 * y.ratio.2) (x.ratio.2 * y.ratio.1)

def le (x y : Extended) : Bool := x.ratio.1 * y.ratio.2 ≤ y.ratio.1 * x.ratio.2

def floor (x : Extended) : Nat := x.ratio.1 / x.ratio.2

def fraction (x : Extended) : Extended := ofRatio (x.ratio.1 % x.ratio.2) x.ratio.2

/-- A power of ten, by squaring: every step is rounded, so that a large one need not be the nearest. -/
def tenTo (n : Nat) : Extended := go n (ofNat 10) (ofNat 1)
where
  go (n : Nat) (square product : Extended) : Extended :=
    if n = 0 then product
    else go (n / 2) (square.mul square) (if n % 2 = 1 then product.mul square else product)

end Extended

end Lifecycle
