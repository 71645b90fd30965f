import Lifecycle.Text.Search
import Lifecycle.Value.Items
import Lifecycle.Value.Order

/-!
What methods of plain values make of their arguments, and what they answer with.
-/

namespace Lifecycle

/-- The answer of a method, and what the value it was called on has come to if that changed. What
changed before a fault stays changed. -/
structure Reply where
  answer : Except Fault Value
  after : Option Value := none

namespace Reply

def of (answer : Except Fault Value) : Reply := ⟨answer, none⟩

def failed (f : Fault) : Reply := ⟨.error f, none⟩

/-- A method that answers nothing but changes the value it is called on. -/
def became (after : Value) : Reply := ⟨.ok .none, some after⟩

def ofBoth (r : Except Fault (Value × Value)) : Reply :=
  match r with
  | .ok (answer, after) => ⟨.ok answer, some after⟩
  | .error f => failed f

def ofChange (r : Except Fault Value) : Reply := ofBoth (r.map fun after => (.none, after))

def ofSelf (r : Except Fault Value) : Reply := ofBoth (r.map fun after => (after, after))

end Reply

namespace Value

def notImplemented : Value := sealed 0 "NotImplementedType" "NotImplemented"

def badValue {α : Type} (text : String) : Except Fault α := .error (.badValue (.told text))

def index (v : Value) : Except Fault Int :=
  match v.int? with
  | some n => .ok n
  | Option.none => told ("'" ++ v.longTypeName ++ "' object cannot be interpreted as an integer")

def size (v : Value) : Except Fault Int := do
  let n ← v.index
  if fitsWord n then return n else throw (.numberTooLarge "C ssize_t")

def factor (v : Value) : Except Fault Nat := do
  let n ← v.index
  if fitsWord n then return n.toNat
  else throw (.overflow ("cannot fit '" ++ v.longTypeName ++ "' into an index-sized integer"))

def smallSize (v : Value) : Except Fault Int := do
  let n ← v.index
  if -(twoTo 31 : Int) ≤ n && n < twoTo 31 then return n else throw (.numberTooLarge "C int")

def bound (orNone : String) (v : Value) : Except Fault Int :=
  match v.int? with
  | some n => .ok n
  | Option.none => told ("slice indices must be integers " ++ orNone ++ "or have an __index__ method")

def needTextArgument (callee place : String) (v : Value) : Except Fault String :=
  match v.text? with
  | some s => .ok s
  | Option.none =>
    told (callee ++ "() argument" ++ place ++ " must be str, not " ++ v.argumentType)

def notBytes {α : Type} (v : Value) : Except Fault α :=
  told ("a bytes-like object is required, not '" ++ v.longTypeName ++ "'")

def needElements (v : Value) : Except Fault (List Value) :=
  match v.elements? with
  | some xs => .ok xs
  | Option.none => .error (.misuse (.notIterable v.longTypeName))

def tooMany {α : Type} (type : String) (args : List Value) : Except Fault α :=
  told (type ++ " expected at most 1 argument, got " ++ toString args.length)

end Value

/-- A part of a sequence between two bounds, of which those below zero count from the end. -/
structure Slice where
  start : Nat
  stop : Nat
  deriving DecidableEq

namespace Slice

def place (size : Nat) (n : Int) : Nat := (if n < 0 then n + size else n).toNat

def of (size : Nat) (start stop : Option Int) : Slice where
  start := place size (start.getD 0)
  stop := min size (place size (stop.getD size))

def ofArguments (size : Nat) (orNone : String) (bounds : List Value) : Except Fault Slice := do
  let read (v : Value) : Except Fault (Option Int) :=
    match v with
    | .none => if orNone = "" then (v.bound orNone).map some else .ok none
    | v => (v.bound orNone).map some
  match bounds with
  | start :: stop :: _ =>
    let start ← read start
    return of size start (← read stop)
  | start :: [] => return of size (← read start) none
  | [] => return of size none none

/-- The elements between the bounds, unless the first lies beyond the last. -/
def cut? {α : Type} (s : Slice) (xs : List α) : Option (List α) :=
  if s.stop < s.start then none else some ((xs.take s.stop).drop s.start)

end Slice

def compareBy (name : String) (comparable : Bool) (v w : Value) : Except Fault Value :=
  if !comparable then .ok .notImplemented
  else match name, Comparison.ofName? name with
    | "__eq__", _ => .ok (.bool (v.equals w))
    | "__ne__", _ => .ok (.bool !(v.equals w))
    | _, some c => do
      match ← v.compares? c w with
      | some b => return .bool b
      | none => return .notImplemented
    | _, none => .ok .notImplemented

end Lifecycle
