import Lifecycle.Value.Attribute
import Lifecycle.Value.Construction

/-!
What classes declare about their records by names that stand for more than themselves: how a missing
attribute is made up, what is true, what is held and what is found under a key. A value that declares
nothing of the kind is treated as any other (`truthOf_of_undeclared`).
-/

namespace Lifecycle.Value

def declared? (v : Value) (name : String) : Option Value :=
  match v with
  | record _ c _ => c.attribute? name
  | _ => Option.none

/-- Calls something with less than the two values that predicates are called with. -/
def callBriefly (f : Value) (args : List Value) : Except Fault Value :=
  match f with
  | type t => construct t args
  | enumeration e => e.call args
  | owner c => if args.isEmpty then .ok (record 0 c []) else .error (.misuse (.noArguments c.name))
  | hook _ => .error (.badValue (.unpacked 2 args.length))
  | matcher _ =>
    told ("TransitionMatcher.__call__() missing " ++
      (if args.isEmpty then "2 required positional arguments: 'from_' and 'to'"
        else "1 required positional argument: 'to'"))
  | f => .error (.misuse (.notCallable f.longTypeName))

/-- What a value has under a name, made up if its class declares how. -/
def lookup (v : Value) (name : String) : Except Fault (Option Value) :=
  match v.attribute? name, v.declared? "__getattr__" with
  | some a, _ => .ok (some a)
  | Option.none, some f => (callBriefly f [text name]).map some
  | Option.none, Option.none => .ok Option.none

theorem lookup_of_attribute {v a : Value} {name : String} (h : v.attribute? name = some a) :
    v.lookup name = .ok (some a) := by
  simp [lookup, h]

def find (v : Value) (name : String) : Except Fault Value := do
  match ← v.lookup name with
  | some a => return a
  | Option.none => throw (v.noAttribute name)

def truthOf (v : Value) : Except Fault Bool := do
  match v.declared? "__bool__", v.declared? "__len__" with
  | some f, _ =>
    match ← callBriefly f [] with
    | bool b => return b
    | w => told ("__bool__ should return bool, returned " ++ w.longTypeName)
  | Option.none, some f =>
    let n ← (← callBriefly f []).index
    if n < 0 then badValue "__len__() should return >= 0"
    return n ≠ 0
  | Option.none, Option.none => return v.truth

theorem truthOf_of_undeclared {v : Value} (hb : v.declared? "__bool__" = Option.none)
    (hl : v.declared? "__len__" = Option.none) : v.truthOf = .ok v.truth := by
  simp [truthOf, hb, hl, pure, Except.pure]

/-- What goes wrong at the first place that a value is asked for what it has there. Where each place has
the member of an enumeration that is its number, the members run out. -/
def placesFault? (f : Value) : Option Fault :=
  let tries := match f with
    | enumeration e => e.members.length + 1
    | _ => 1
  (List.range tries).findSome? fun (i : Nat) =>
    match callBriefly f [int i] with
    | .error e => some e
    | .ok _ => Option.none

/-- What goes wrong when a value without elements is gone through one by one. Its class may declare how
to do it, or what is at each place, and of the length a fault that is not about types counts. -/
def drawFault (v : Value) (undeclared : Fault) : Fault :=
  let unfit : Fault := .misuse (.notIterable v.longTypeName)
  match v.declared? "__iter__", v.declared? "__getitem__" with
  | some _, _ => v.iterationFault?.getD unfit
  | Option.none, some f =>
    match (v.declared? "__len__").map fun l => callBriefly l [] with
    | some (.error (.badValue b)) => .badValue b
    | _ => (placesFault? f).getD unfit
  | Option.none, Option.none => undeclared

def holdsOf (container v : Value) : Except Fault Bool := do
  match container.declared? "__contains__" with
  | some none => told ("'" ++ container.longTypeName ++ "' object is not a container")
  | some f => (← callBriefly f [v]).truthOf
  | Option.none =>
    match container.iterationFault? with
    | some (.badValue b) => throw (.badValue b)
    | _ => container.contains v

def itemOf (container key : Value) : Except Fault Value :=
  match container.declared? "__getitem__" with
  | some f => callBriefly f [key]
  | Option.none => container.item key

end Lifecycle.Value
