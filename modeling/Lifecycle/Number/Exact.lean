namespace Lifecycle

def twoTo (n : Nat) : Nat := Nat.pow 2 n

def tenTo (n : Nat) : Nat := Nat.pow 10 n

def fitsWord (n : Int) : Bool := -(twoTo 63 : Int) ≤ n && n < twoTo 63

/-- The number `num / 2 ^ twos`. Built by `reduce`, equal numbers are equal records. -/
structure Exact where
  num : Int
  twos : Nat
  deriving DecidableEq, Hashable, Ord

namespace Exact

def ofInt (n : Int) : Exact := ⟨n, 0⟩

/-- Cancels twos until the numerator is odd or no two is left below the line. -/
def reduce (n : Int) : Nat → Exact
  | 0 => ⟨n, 0⟩
  | k + 1 => if n % 2 = 0 then reduce (n / 2) k else ⟨n, k + 1⟩

def isWhole (x : Exact) : Bool := x.twos = 0

def le (x y : Exact) : Bool := x.num * twoTo y.twos ≤ y.num * twoTo x.twos

end Exact

end Lifecycle
