import Lifecycle.Collection

/-!
The order of values. Numbers, texts, byte strings, lists, tuples and sets have one among their own kind,
sequences by their first difference, sets by inclusion; any other two have none.
-/

namespace Lifecycle

inductive Comparison where
  | less
  | lessOrSame
  | more
  | moreOrSame
  deriving DecidableEq

namespace Comparison

def symbol : Comparison → String
  | less => "<"
  | lessOrSame => "<="
  | more => ">"
  | moreOrSame => ">="

def ofName? : String → Option Comparison
  | "__lt__" => some less
  | "__le__" => some lessOrSame
  | "__gt__" => some more
  | "__ge__" => some moreOrSame
  | _ => none

def holds (c : Comparison) (o : Ordering) : Bool :=
  match c with
  | less => o.isLT
  | lessOrSame => o.isLE
  | more => o.isGT
  | moreOrSame => o.isGE

end Comparison

def Exact.order (x y : Exact) : Ordering :=
  if x = y then .eq else if x.le y then .lt else .gt

/-- Numbers by value, infinities beyond all others, and moments of a kind as they follow each other. -/
def numberOrder? : Label → Label → Option Ordering
  | .number x, .number y => some (x.order y)
  | .infinity n, .infinity m => some (compare m n)
  | .infinity n, .number _ => some (if n then .lt else .gt)
  | .number _, .infinity n => some (if n then .gt else .lt)
  | .moment k m, .moment l n => if k = l then some (compare m n) else none
  | _, _ => none

def includes (xs ys : List Value) : Bool := ys.all (holds xs)

def setsCompare (c : Comparison) (xs ys : List Value) : Bool :=
  match c with
  | .less => includes ys xs && !includes xs ys
  | .lessOrSame => includes ys xs
  | .more => includes xs ys && !includes ys xs
  | .moreOrSame => includes xs ys

namespace Value

/-- Whether a value is a number, or a float that is none. -/
def isReal : Value → Bool
  | float _ | nan _ => true
  | v => v.int?.isSome

def simpleOrder? (a b : Value) : Option Ordering :=
  match a.text?, b.text?, a, b with
  | some s, some t, _, _ => some (compare s t)
  | _, _, bytes xs, bytes ys => some (compare xs ys)
  | _, _, _, _ =>
    match a.key, b.key with
    | .node x .nil, .node y .nil => numberOrder? x y
    | _, _ => Option.none

end Value

mutual

def Value.compares? (c : Comparison) : Value → Value → Except Fault (Option Bool)
  | .list _ xs, .list _ ys | .tuple xs, .tuple ys => (comparesAll c xs ys).map some
  | .set _ _ xs, .set _ _ ys => .ok (some (setsCompare c xs ys))
  | a, b =>
    -- what is no number is neither before nor behind one
    if (a.isNaN || b.isNaN) && a.isReal && b.isReal then .ok (some false)
    else .ok ((a.simpleOrder? b).map c.holds)

/-- Sequences compare as their first different elements, and if there are none by length. -/
def comparesAll (c : Comparison) : List Value → List Value → Except Fault Bool
  | x :: xs, y :: ys =>
    if x.same y then comparesAll c xs ys
    else do
      match ← Value.compares? c x y with
      | some b => return b
      | none =>
        Value.unordered c x y
  | xs, ys => .ok (c.holds (compare xs.length ys.length))

def Value.unordered (c : Comparison) (x y : Value) : Except Fault Bool :=
  .error (.misuse (.told ("'" ++ c.symbol ++ "' not supported between instances of '" ++
    x.longTypeName ++ "' and '" ++ y.longTypeName ++ "'")))

end

end Lifecycle
