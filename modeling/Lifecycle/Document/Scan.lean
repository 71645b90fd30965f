namespace Lifecycle.Document

def after? : List Char → List Char → Option (List Char)
  | [], rest => some rest
  | p :: ps, c :: cs => if p = c then after? ps cs else none
  | _ :: _, [] => none

theorem after?_eq_some_iff {beginning text rest : List Char} :
    after? beginning text = some rest ↔ text = beginning ++ rest := by
  induction beginning generalizing text with
  | nil => simp [after?, eq_comm]
  | cons p ps ih =>
    cases text with
    | nil => simp [after?]
    | cons c cs =>
      by_cases h : p = c
      · simp [after?, h, ih]
      · simp [after?, h, Ne.symm h]

def digitValue (c : Char) : Nat :=
  if c.isDigit then c.toNat - '0'.toNat
  else if 'a' ≤ c && c ≤ 'z' then c.toNat - 'a'.toNat + 10
  else if 'A' ≤ c && c ≤ 'Z' then c.toNat - 'A'.toNat + 10
  else 0

def isHexDigit (c : Char) : Bool :=
  c.isDigit || ('a' ≤ c && c ≤ 'f') || ('A' ≤ c && c ≤ 'F')

def numeral (base : Nat) (ds : List Char) : Nat :=
  ds.foldl (fun n d => base * n + digitValue d) 0

def signed : List Char → Bool × List Char
  | '-' :: rest => (true, rest)
  | '+' :: rest => (false, rest)
  | cs => (false, cs)

def signedInt (negative : Bool) (n : Nat) : Int := if negative then -(n : Int) else n

/-- Why a text cannot be read as data: its form, a whole number too long to be read, or values that
lie too deep within one another. -/
inductive Flaw where
  | malformed
  | longNumber (digits : Nat)
  | tooDeep
  deriving DecidableEq

def expected {α : Type} : Option α → Except Flaw α
  | some x => .ok x
  | none => .error .malformed

def digitLimit : Nat := 4300

def wholeNumber (negative : Bool) (ds : List Char) : Except Flaw Int :=
  if digitLimit < ds.length then .error (.longNumber ds.length)
  else .ok (signedInt negative (numeral 10 ds))

/-- The digits before and after a point as one number, and the power of ten it is to be taken by. -/
def decimalFraction (whole fraction : List Char) (exponent : Int) : Nat × Int :=
  (numeral 10 (whole ++ fraction), exponent - fraction.length)

end Lifecycle.Document
