import Lifecycle.Value.Argument

/-!
The methods of lists, tuples and ranges. Those of lists can change the list.
-/

namespace Lifecycle

namespace Listed

/-- The place of the first element that equals a value, between bounds. -/
def indexOf (xs : List Value) (v : Value) (bounds : List Value) (missing : String) :
    Except Fault Value := do
  let slice ← Slice.ofArguments xs.length "" bounds
  match ((slice.cut? xs).getD []).findIdx? fun x => x.same v with
  | some i => return .int (slice.start + i)
  | none => Value.badValue missing

def count (xs : List Value) (v : Value) : Value := .int (xs.filter fun x => x.same v).length

def repeated (xs : List Value) (v : Value) : Except Fault (List Value) := do
  let n ← v.factor
  return (List.replicate (if xs.isEmpty then 0 else n) xs).flatten

def cannotAdd {α : Type} (type : String) (v : Value) : Except Fault α :=
  Value.told ("can only concatenate " ++ type ++ " (not \"" ++ v.longTypeName ++ "\") to " ++ type)

/-- An element put before a place; places beyond either end mean the end. -/
def insert (xs : List Value) (place : Int) (v : Value) : List Value :=
  let i := Slice.place xs.length place
  xs.take i ++ v :: xs.drop i

def pop (xs : List Value) (place : Int) : Except Fault (Value × List Value) :=
  if xs.isEmpty then .error (.noPlace "pop from empty list")
  else match (placeOf? xs.length place).bind fun i => xs[i]?.map fun x => (x, xs.eraseIdx i) with
    | some r => .ok r
    | none => .error (.noPlace "pop index out of range")

def withoutItem (xs : List Value) (index : Value) : Except Fault (List Value) :=
  match index.int? with
  | none => .error (.misuse (.badIndex "list" index.longTypeName))
  | some n =>
    if !fitsWord n then .error index.beyondIndices
    else match placeOf? xs.length n with
    | some i => .ok (xs.eraseIdx i)
    | none => .error (.outOfRange "list assignment")

def method (id : Nat) (xs : List Value) (name : String) (args : List Value) : Reply :=
  let self := Value.list id xs
  let changed (r : Except Fault (List Value)) : Reply := Reply.ofChange (r.map (Value.list id))
  match name, args with
  | "append", [v] => changed (.ok (xs ++ [v]))
  | "extend", [v] => changed (v.needElements.map (xs ++ ·))
  | "insert", [i, v] => changed (i.size.map fun n => insert xs n v)
  | "remove", [v] =>
    if holds xs v then changed (.ok (xs.eraseIdx (xs.findIdx fun x => x.same v)))
    else Reply.of (Value.badValue "list.remove(x): x not in list")
  | "pop", [i] =>
    Reply.ofBoth (do
      let (x, rest) ← pop xs (← i.size)
      return (x, .list id rest))
  | "count", [v] => Reply.of (.ok (count xs v))
  | "index", v :: bounds => Reply.of (indexOf xs v bounds (v.repr ++ " is not in list"))
  | "__init__", [] => Reply.became (.list id [])
  | "__init__", [v] => { changed v.needElements with after := some (.list id (v.elements?.getD [])) }
  | "__init__", args => Reply.of (Value.tooMany "list" args)
  | "__iadd__", [v] => Reply.ofSelf (v.needElements.map fun more => .list id (xs ++ more))
  | "__imul__", [v] => Reply.ofSelf ((repeated xs v).map (Value.list id))
  | "__delitem__", [i] => changed (withoutItem xs i)
  | "__setitem__", [i, v] => Reply.ofChange (self.withItem i v)
  | "__add__", [.list _ ys] => Reply.of (.ok (.list 0 (xs ++ ys)))
  | "__add__", [v] => Reply.of (cannotAdd "list" v)
  | "__mul__", [v] | "__rmul__", [v] => Reply.of ((repeated xs v).map (Value.list 0))
  | "__contains__", [v] => Reply.of (.ok (.bool (holds xs v)))
  | "__getitem__", [i] => Reply.of (self.item i)
  | _, [.list other ys] => Reply.of (compareBy name true self (.list other ys))
  | _, _ => Reply.of (.ok .notImplemented)

end Listed

def tupleMethod (xs : List Value) (name : String) (args : List Value) : Except Fault Value :=
  match name, args with
  | "count", [v] => .ok (Listed.count xs v)
  | "index", v :: bounds => Listed.indexOf xs v bounds "tuple.index(x): x not in tuple"
  | "__add__", [.tuple ys] => .ok (.tuple (xs ++ ys))
  | "__add__", [v] => Listed.cannotAdd "tuple" v
  | "__mul__", [v] | "__rmul__", [v] => (Listed.repeated xs v).map Value.tuple
  | "__contains__", [v] => .ok (.bool (holds xs v))
  | "__getitem__", [i] => (Value.tuple xs).item i
  | _, [.tuple ys] => compareBy name true (.tuple xs) (.tuple ys)
  | _, _ => .ok .notImplemented

def rangeMethod (start stop step : Int) (name : String) (args : List Value) : Except Fault Value :=
  let self := Value.range start stop step
  match name, args with
  | "count", [v] => .ok (.int (if rangeContains v then 1 else 0))
  | "index", [v] =>
    match rangeContains v, v.key, v with
    | true, .node (.number x) .nil, _ => .ok (.int (Int.fdiv (x.num - start) step))
    | _, _, .int _ | _, _, .bool _ => Value.badValue (v.repr ++ " is not in range")
    | _, _, _ => Value.badValue "sequence.index(x): x not in sequence"
  | "__contains__", [v] => .ok (.bool (rangeContains v))
  | "__getitem__", [i] => self.item i
  | "__reduce__", _ => .ok (.tuple [.type "range", .tuple [.int start, .int stop, .int step]])
  | _, [.range a b c] => compareBy name true self (.range a b c)
  | _, _ => .ok .notImplemented
where
  rangeContains (v : Value) : Bool := Value.rangeContains start stop step v

end Lifecycle
