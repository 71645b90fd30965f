import Lifecycle.Value.Argument
import Lifecycle.Value.NumberMethod

/-!
Types called as functions: what a type makes of no value, of one, or of several.
-/

namespace Lifecycle.Value

def realNumber (v : Value) : Except Fault Value := do
  match v, v.int?, v.written? with
  | float x, _, _ => return float x
  | nan id, _, _ => return nan id
  | _, some _, _ => return float (← Directive.real "" v)
  | _, Option.none, some cs =>
    match Numeral.readReal? cs with
    | some (some x) => return float x
    | some Option.none => return nan 0
    | Option.none => badValue ("could not convert string to float: " ++ v.repr)
  | _, Option.none, Option.none =>
    told ("float() argument must be a string or a real number, not '" ++ v.longTypeName ++ "'")

/-- The bytes that numbers or other bytes make, or so many zeros. -/
def bytesFrom (v : Value) : Except Fault (List UInt8) := do
  match v.text?, v.int? with
  | some _, _ => told "string argument without an encoding"
  | _, some n =>
    if n < 0 then badValue "negative count"
    if !fitsWord n then throw (.overflow ("cannot fit '" ++ v.longTypeName ++ "' into an index-sized integer"))
    return List.replicate n.toNat 0
  | _, _ => Whole.bytesOf v

def empty (type : String) : Except Fault Value :=
  match type with
  | "int" => .ok (int 0)
  | "bool" => .ok (bool false)
  | "float" => .ok (float (Binary64.zero false))
  | "str" => .ok (text "")
  | "bytes" => .ok (bytes [])
  | "list" => .ok (list 0 [])
  | "tuple" => .ok (tuple [])
  | "dict" => .ok (dict 0 [])
  | "set" => .ok (set 0 false [])
  | "frozenset" => .ok (set 0 true [])
  | "NoneType" => .ok none
  | "SimpleNamespace" => .ok (bundle [])
  | "object" => .ok (sealed 0 "object" "<object object>")
  | "range" => told "range expected at least 1 argument, got 0"
  | _ => told (type ++ "() takes 1 or 3 arguments")

def converted (type : String) (v : Value) : Except Fault Value := do
  match type with
  | "int" => return int (← v.wholeNumber)
  | "bool" => return bool v.truth
  | "float" => v.realNumber
  | "str" => return text v.display
  | "bytes" => return bytes (← bytesFrom v)
  | "list" => return list 0 (← v.needElements)
  | "tuple" => return tuple (← v.needElements)
  | "dict" => return dict 0 (← v.toTable)
  | "set" => makeSet 0 false (← v.needElements)
  | "frozenset" => makeSet 0 true (← v.needElements)
  | "range" => return range 0 (← v.index) 1
  | "type" => return v.ownType
  | "object" => throw (.misuse (.noArguments "object"))
  | "SimpleNamespace" => told "no positional arguments expected"
  | _ => told (type ++ " takes no arguments")

def construct (type : String) (args : List Value) : Except Fault Value := do
  match type, args with
  | type, [] => empty type
  | type, [v] => converted type v
  | "int", args => return int (← makeInt args)
  | "str", args => return text (← makeText args)
  | "bytes", v :: coding => return bytes (← makeBytes v coding)
  | "range", [start, stop] => return range (← start.index) (← stop.index) 1
  | "range", [start, stop, step] =>
    let (a, b, c) := (← start.index, ← stop.index, ← step.index)
    if c = 0 then badValue "range() arg 3 must not be zero"
    return range a b c
  | "NoneType", _ => told "NoneType takes no arguments"
  | "object", _ => throw (.misuse (.noArguments "object"))
  | "SimpleNamespace", _ => told "no positional arguments expected"
  | "type", [name, _, _] =>
    told ("type.__new__() argument 1 must be str, not " ++ name.longTypeName)
  | "type", _ => told "type() takes 1 or 3 arguments"
  | "range", args => told ("range expected at most 3 arguments, got " ++ toString args.length)
  | _, args => tooMany type args

end Lifecycle.Value
