import Lifecycle.Document.Scan
import Lifecycle.Number.Binary64
import Lifecycle.Text.Digit

namespace Lifecycle.Numeral

open Document

def readDigits (base : Nat) (afterDigit : Bool) : List Char → Option (List Char × List Char)
  | [] => if afterDigit then some ([], []) else none
  | '_' :: rest => if afterDigit then readDigits base false rest else none
  | c :: rest =>
    if c.isAlphanum && digitValue c < base then
      (readDigits base true rest).map fun (ds, r) => (c :: ds, r)
    else if afterDigit then some ([], c :: rest)
    else none

def markOf : Nat → Char
  | 2 => 'b'
  | 8 => 'o'
  | _ => 'x'

def afterMark? (base : Nat) (cs : List Char) : Option (List Char) :=
  match cs with
  | '0' :: c :: rest =>
    if [2, 8, 16].contains base && c.toLower = markOf base then
      some (match rest with
        | '_' :: r => r
        | r => r)
    else none
  | _ => none

def chooseBase (base : Nat) (cs : List Char) : Nat × List Char :=
  if base = 0 then
    match [2, 8, 16].findSome? fun b => (afterMark? b cs).map fun rest => (b, rest) with
    | some found => found
    | none => (10, cs)
  else (base, (afterMark? base cs).getD cs)

def isPowerOfTwo (base : Nat) : Bool := [2, 4, 8, 16, 32].contains base

/-- A whole number as written in a base between 2 and 36, with blanks around it and a sign before it.
Base zero stands for the base the numeral has a mark of; without one it is ten, and only zero starts
with a zero. -/
def read (base : Nat) (cs : List Char) : Except Flaw Int := do
  let (negative, unsigned) := signed (Text.trim (cs.map Text.plainDigit))
  let (radix, rest) := chooseBase base unsigned
  let (ds, rest) ← expected (readDigits radix false rest)
  if !isPowerOfTwo radix && digitLimit < ds.length then throw (.longNumber ds.length)
  if !rest.isEmpty then throw .malformed
  let n := numeral radix ds
  if base = 0 && unsigned.head? = some '0' && radix = 10 && n ≠ 0 then throw .malformed
  return signedInt negative n

def someDigits (cs : List Char) : List Char × List Char := (readDigits 10 false cs).getD ([], cs)

def readPower? : List Char → Option Int
  | [] => some 0
  | c :: rest =>
    if c.toLower = 'e' then
      let (negative, rest) := signed rest
      match readDigits 10 false rest with
      | some (ds, []) => some (signedInt negative (numeral 10 ds))
      | _ => none
    else none

/-- A number as written with a point or a power of ten. Nothing stands for what is not a number. -/
def readReal? (cs : List Char) : Option (Option Binary64) :=
  let (negative, unsigned) := signed (Text.trim (cs.map Text.plainDigit))
  let small := String.ofList (unsigned.map Char.toLower)
  if small = "inf" || small = "infinity" then some (some (.infinite negative))
  else if small = "nan" then some none
  else
    let (whole, rest) := someDigits unsigned
    let (fraction, rest) := match rest with
      | '.' :: r => someDigits r
      | r => ([], r)
    if whole.isEmpty && fraction.isEmpty then none
    else (readPower? rest).map fun power =>
      some (Binary64.ofDecimal negative (numeral 10 (whole ++ fraction)) (power - fraction.length))

end Lifecycle.Numeral
