import Lifecycle.Value.Construction
import Lifecycle.Value.SequenceMethod
import Lifecycle.Value.TableMethod
import Lifecycle.Value.TextMethod

/-!
What the methods of plain values answer, by the type that declares them.
-/

namespace Lifecycle

namespace Value

/-- The name under which a value is compared by what it holds, if it is not just itself. -/
def comparedAs? (v : Value) : Option String :=
  match v, v.text?, v.int? with
  | _, some _, _ => some "str"
  | _, _, some _ => some "int"
  | set .., _, _ => some "set"
  | float _, _, _ | nan _, _, _ | bytes _, _, _ | list .., _, _ | tuple _, _, _ | dict .., _, _
  | range .., _, _ | bundle _, _, _ => some v.typeName.name
  | _, _, _ => Option.none

def ownEquality? (v w : Value) : Option Bool :=
  match v, v.comparedAs?, w.comparedAs? with
  | float _, some _, some "int" | nan _, some _, some "int" => some (v.equals w)
  | _, some a, some b => if a = b then some (v.equals w) else Option.none
  | _, some _, Option.none => Option.none
  | _, Option.none, _ => if v.same w then some true else Option.none

def attributeName (v : Value) : Except Fault String :=
  match v.text? with
  | some n => .ok n
  | Option.none => .error (.misuse (.attributeName v.longTypeName))

def needOwnAttribute (v : Value) (name : String) : Except Fault Unit :=
  match v, v.attribute? name with
  | record .., _ | bundle _, _ => .ok ()
  | _, Option.none => .error (v.noAttribute name)
  | _, some (method ..) => .error (.readOnly v.longTypeName name)
  | _, some _ => .error (.notWritable name v.longTypeName)

def deleteAttribute (v name : Value) : Except Fault Value := do
  let n ← name.attributeName
  if n = "__class__" then told "can't delete __class__ attribute"
  match v, v.ownAttribute? n with
  | record .., Option.none | bundle _, Option.none =>
    if n = "__dict__" then return none else throw (v.noAttribute n)
  | _, _ =>
    v.needOwnAttribute n
    return none

def setAttribute (v name x : Value) : Except Fault Value := do
  let n ← name.attributeName
  if n = "__class__" then
    told (if x.asType?.isSome then
      "__class__ assignment only supported for mutable types or ModuleType subclasses"
    else "__class__ must be set to a class, not '" ++ x.longTypeName ++ "' object")
  v.needOwnAttribute n
  return none

/-- The types whose values are not taken apart by the older ways. -/
def isAtomic (v : Value) : Bool :=
  match v with
  | none | bool _ | int _ | float _ | text _ | bytes _ | list .. | tuple _ | dict .. => true
  | _ => false

/-- What a value is made of again, by the second way of taking it apart or a later one. -/
def takenApart (v version : Value) : Except Fault Value := do
  let n ← version.smallSize
  if n < 2 && v.isAtomic then told ("cannot pickle '" ++ v.longTypeName ++ "' object")
  return tuple [v.ownType]

def makeNew (declaring : String) (args : List Value) : Except Fault Value := do
  match args with
  | [] => told (declaring ++ ".__new__(): not enough arguments")
  | v :: rest =>
    match v.asType? with
    | Option.none =>
      told (declaring ++ ".__new__(X): X is not a type object (" ++ v.longTypeName ++ ")")
    | some t =>
      let name := t.name
      if !t.within (.named declaring) then
        told (declaring ++ ".__new__(" ++ name ++ "): " ++ name ++ " is not a subtype of " ++ declaring)
      let nearest := (t.lineage.find? fun l => (Plain.find? l "__new__").isSome).getD "object"
      if nearest ≠ declaring then
        told (declaring ++ ".__new__(" ++ name ++ ") is not safe, use " ++ nearest ++ ".__new__()")
      match v, declaring with
      | owner c, _ => if rest.isEmpty then return record 0 c [] else throw (.misuse (.noArguments c.name))
      | _, "list" | _, "dict" | _, "set" => empty declaring
      | _, _ => construct declaring rest

/-- Sets a value up as no more than an object, which takes no arguments where its type says more of how
values of it are made. -/
def initialized (v : Value) (args : List Value) : Except Fault Value :=
  let refused (callee : String) : Except Fault Value :=
    told (callee ++ ".__init__() takes exactly one argument (the instance to initialize)")
  match v, args with
  | _, [] => .ok none
  | record _ c _, _ => refused c.name
  | sealed _ t _, _ => refused t
  | list .., _ | dict .., _ | set _ false _, _ | bundle _, _ | type _, _ | owner _, _ | enumeration _, _
  | member .., _ | hook _, _ | provider .., _ | domain .., _ | matcher _, _ | strategy .., _
  | changeset _, _ => refused "object"
  | _, _ => .ok none

def objectMethod (v : Value) (name : String) (args : List Value) : Except Fault Value := do
  match name, args with
  | "__eq__", [w] => if v.same w then return bool true else return notImplemented
  | "__ne__", [w] =>
    match v.ownEquality? w with
    | some b => return bool !b
    | Option.none => return notImplemented
  | "__init__", _ => v.initialized args
  | "__format__", [spec] =>
    let spec ← needTextArgument "__format__" "" spec
    if spec = "" then return text v.display
    else told ("unsupported format string passed to " ++ v.longTypeName ++ ".__format__")
  | "__lt__", _ | "__le__", _ | "__gt__", _ | "__ge__", _ => return notImplemented
  | _, _ => return none

def bundleMethod (fields : List (String × Value)) (name : String) (args : List Value) :
    Except Fault Value :=
  let table (fields : List (String × Value)) : Value := dict 0 (fields.map fun (n, v) => (text n, v))
  match name, args with
  | "__init__", _ => told "no positional arguments expected"
  | "__eq__", [bundle _] | "__ne__", [bundle _] =>
    match args with
    | w :: _ => compareBy name true (bundle fields) w
    | [] => .ok notImplemented
  | _, [bundle others] =>
    match Comparison.ofName? name with
    | some c => (unordered c (table fields) (table others)).map bool
    | Option.none => .ok notImplemented
  | _, _ => .ok notImplemented

/-- Gives a stream a fault to stop with, which no value here is. -/
def throwInto (args : List Value) : Except Fault Value :=
  match args with
  | [_, _, trace] =>
    match trace with
    | none => refused args
    | _ => told "throw() third argument must be a traceback object"
  | args => refused args
where
  refused (args : List Value) : Except Fault Value :=
    told ("exceptions must be classes or instances deriving from BaseException, not " ++
      (args.head?.getD none).longTypeName)

end Value

namespace PlainMethod

def answer (m : PlainMethod) (v : Value) (name : String) (args : List Value) : Reply :=
  match name, args, m.type, v with
  | "__getattribute__", [n], _, _ => Reply.of (do v.requireAttribute (← n.attributeName))
  | "__delattr__", [n], _, _ => Reply.of (v.deleteAttribute n)
  | "__setattr__", [n, x], _, _ => Reply.of (v.setAttribute n x)
  | "__reduce_ex__", [version], _, _ => Reply.of (v.takenApart version)
  | _, _, "object", _ => Reply.of (v.objectMethod name args)
  | "__format__", [spec], _, _ =>
    Reply.of (do return .text (← v.formatted (← Value.needTextArgument "__format__" "" spec)))
  | _, _, "int", _ | _, _, "bool", _ => Reply.of (Whole.method m.type v (v.int?.getD 0) name args)
  | _, _, "float", .float x => Reply.of (Floating.method x name args)
  | _, _, "str", _ => Reply.of (Script.text.method v name args)
  | _, _, "bytes", _ => Reply.of (Script.bytes.method v name args)
  | _, _, "list", .list id xs => Listed.method id xs name args
  | _, _, "tuple", .tuple xs => Reply.of (tupleMethod xs name args)
  | _, _, "range", .range start stop step => Reply.of (rangeMethod start stop step name args)
  | _, _, "dict", .dict id t => Table.method id t name args
  | _, _, "set", .set id frozen xs | _, _, "frozenset", .set id frozen xs =>
    Elements.method id frozen xs name args
  | _, _, "generator", _ => Reply.of (Value.throwInto args)
  | _, _, "SimpleNamespace", .bundle fields => Reply.of (Value.bundleMethod fields name args)
  | _, _, _, _ => Reply.of (.ok .notImplemented)

def answerOfType (m : PlainMethod) (name : String) (args : List Value) : Except Fault Value :=
  match name, m.type, args with
  | "__new__", _, _ => Value.makeNew m.type args
  | "__subclasshook__", _, _ => .ok .notImplemented
  | "__prepare__", _, _ => .ok (.dict 0 [])
  | "maketrans", "bytes", _ => Script.bytes.makeTable args
  | "maketrans", _, _ => Script.text.makeTable args
  | "from_bytes", _, _ => Whole.ofBytes args
  | "fromkeys", _, keys :: v => tableOfKeys keys (v.head?.getD .none)
  | _, _, _ => .ok .none

end PlainMethod

end Lifecycle
