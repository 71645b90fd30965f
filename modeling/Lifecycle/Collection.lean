import Std.Data.HashSet
import Lifecycle.Fault
import Lifecycle.Value.Contents

namespace Lifecycle

def Value.needHashable (v : Value) : Except Fault Unit :=
  match v.mutablePart? with
  | .none => .ok ()
  | .some t => .error (Fault.unhashable t)

def needAllHashable (xs : List Value) : Except Fault Unit := xs.forM Value.needHashable

def distinctFrom (seen : Std.HashSet Key) : List Value → List Value
  | [] => []
  | x :: xs =>
    if seen.contains x.key then distinctFrom seen xs
    else x :: distinctFrom (seen.insert x.key) xs

def distinct (xs : List Value) : List Value := distinctFrom ∅ xs

def holds (xs : List Value) (v : Value) : Bool := xs.any fun x => x.key = v.key

/-- Entries in order of their keys' first appearance. -/
abbrev Table := List (Value × Value)

namespace Table

def lookup? (t : Table) (k : Value) : Option Value :=
  (t.find? fun e => e.1.key = k.key).map (·.2)

def hasKey (t : Table) (k : Value) : Bool := t.any fun e => e.1.key = k.key

/-- A key that is there keeps its place and its first form. -/
def put (t : Table) (k v : Value) : Table :=
  if hasKey t k then t.map fun e => if e.1.key = k.key then (e.1, v) else e else t ++ [(k, v)]

def ofList (entries : List (Value × Value)) : Table :=
  entries.foldl (fun t e => put t e.1 e.2) []

def keys (t : Table) : List Value := t.map (·.1)

def values (t : Table) : List Value := t.map (·.2)

def lookup (t : Table) (k : Value) : Except Fault (Option Value) := do
  k.needHashable
  return lookup? t k

end Table

/-- What goes wrong when a record is gone through whose class declares how to do it: nothing that it can
declare yields one element after the other. -/
def Value.iterationFault? (v : Value) : Option Fault :=
  match v with
  | .record _ c _ =>
    match field? "__iter__" c.attributes with
    | Option.none | some (.plain .none) => Option.none
    | some (.plain (.hook _)) => some (.badValue (.unpacked 2 0))
    | some (.plain (.type t)) => some (notOneByOne t)
    | some (.plain (.owner made)) => some (notOneByOne made.name)
    | some (.plain (.enumeration _)) => some (.misuse (.missingArgument "EnumType.__call__" "value"))
    | some (.plain f) => some (.misuse (.notCallable f.longTypeName))
    | some (.rules _) => some (.misuse (.told ("TransitionMatcher.__call__() missing 2 required " ++
        "positional arguments: 'from_' and 'to'")))
  | _ => Option.none
where
  notOneByOne (type : String) : Fault :=
    .misuse (.told ("iter() returned non-iterator of type '" ++ type ++ "'"))

def Value.makeSet (id : Nat) (frozen : Bool) (xs : List Value) : Except Fault Value := do
  needAllHashable xs
  return .set id frozen (distinct xs)

def Value.makeRange (start stop step : Int) : Except Fault Value :=
  if step = 0 then .error (.badValue .zeroStep) else .ok (.range start stop step)

def Value.makeDict (id : Nat) (entries : List (Value × Value)) : Except Fault Value := do
  needAllHashable (Table.keys entries)
  return .dict id (Table.ofList entries)

def Table.value (t : Table) : Value := .dict 0 t

/-- Puts a named entry where its name stands, or last. -/
def putField {α : Type} (fields : List (String × α)) (name : String) (x : α) : List (String × α) :=
  if (field? name fields).isSome then fields.map fun f => if f.1 = name then (name, x) else f
  else fields ++ [(name, x)]

/-- Named entries in order, of which the last under a name counts. -/
def fieldsOf {α : Type} (entries : List (String × α)) : List (String × α) :=
  entries.foldl (fun fs e => putField fs e.1 e.2) []

def needFreeNames (callee : String) (taken : List String) (named : List (String × Value)) :
    Except Fault Unit :=
  match named.find? fun n => taken.contains n.1 with
  | some (name, _) => .error (.misuse (.repeatedArgument callee name))
  | none => .ok ()

end Lifecycle
