import Lifecycle.Value.Argument

/-!
The methods of mappings and of sets. Those that take in many elements keep the ones before the first that
is at fault.
-/

namespace Lifecycle

/-- Takes in elements one after the other: what came of those before the first at fault, and the fault. -/
def takeIn {σ : Type} (step : σ → Value → Except Fault σ) (s : σ) : List Value → σ × Except Fault Unit
  | [] => (s, .ok ())
  | x :: xs =>
    match step s x with
    | .ok s => takeIn step s xs
    | .error f => (s, .error f)

def takeInAll {σ : Type} (step : σ → Value → Except Fault σ) (s : σ) : List Value → σ × Except Fault Unit
  | [] => (s, .ok ())
  | v :: vs =>
    match v.needElements with
    | .error f => (s, .error f)
    | .ok xs =>
      match takeIn step s xs with
      | (s, .ok ()) => takeInAll step s vs
      | r => r

namespace Table

def erase (t : Table) (k : Value) : Table := t.filter fun e => e.1.key ≠ k.key

def updated (t : Table) (v : Value) : Table × Except Fault Unit :=
  match v with
  | .dict _ items => (items.foldl (fun t e => put t e.1 e.2) t, .ok ())
  | v =>
    match v.needElements with
    | .error f => (t, .error f)
    | .ok xs =>
      let r := takeIn (fun (s : Nat × Table) x => do
        let (k, w) ← Value.entryOf s.1 x
        k.needHashable
        return (s.1 + 1, put s.2 k w)) (0, t) xs
      (r.1.2, r.2)

/-- What a mapping has under a key, and the rest of it. Where there is nothing at all to look at, a
default stands even for what cannot be a key. -/
def pop (t : Table) (k : Value) (default : Option Value) : Except Fault (Value × Table) := do
  if t.isEmpty then
    match default with
    | some d => return (d, t)
    | none => throw (.missingKey k)
  match ← lookup t k, default with
  | some v, _ => return (v, erase t k)
  | none, some d => return (d, t)
  | none, none => throw (.missingKey k)

def method (id : Nat) (t : Table) (name : String) (args : List Value) : Reply :=
  let made (t : Table) : Value := .dict id t
  let update (v : Value) (answer : Value) : Reply :=
    let (after, r) := updated t v
    ⟨r.map fun _ => answer, some (made after)⟩
  match name, args with
  | "get", k :: default => Reply.of ((lookup t k).map fun v => v.getD (default.head?.getD .none))
  | "pop", k :: default => Reply.ofBoth ((pop t k default.head?).map fun (v, t) => (v, made t))
  | "setdefault", k :: default =>
    let default := default.head?.getD .none
    Reply.ofBoth ((lookup t k).map fun
      | some v => (v, made t)
      | none => (default, made (put t k default)))
  | "update", [v] | "__init__", [v] => update v .none
  | "__init__", [] => Reply.of (.ok .none)
  | "__init__", args => Reply.of (Value.tooMany "dict" args)
  | "__ior__", [v] => update v (made (updated t v).1)
  | "__or__", [.dict _ u] => Reply.of (.ok (.dict 0 (updated t (.dict 0 u)).1))
  | "__ror__", [.dict _ u] => Reply.of (.ok (.dict 0 (updated u (.dict 0 t)).1))
  | "__contains__", [k] => Reply.of ((lookup t k).map fun v => .bool v.isSome)
  | "__getitem__", [k] => Reply.of ((made t).item k)
  | "__delitem__", [k] =>
    Reply.ofChange (do
      k.needHashable
      return made (← pop t k none).2)
  | "__setitem__", [k, v] => Reply.ofChange ((made t).withItem k v)
  | _, [.dict other u] => Reply.of (compareBy name true (made t) (.dict other u))
  | _, _ => Reply.of (.ok .notImplemented)

end Table

def tableOfKeys (keys v : Value) : Except Fault Value := do
  Value.makeDict 0 ((← keys.needElements).map fun x => (x, v))

namespace Elements

def add (xs : List Value) (v : Value) : Except Fault (List Value) := do
  v.needHashable
  return if holds xs v then xs else xs ++ [v]

def erase (xs : List Value) (v : Value) : Except Fault (List Value) := do
  v.asElement.needHashable
  return xs.filter fun x => !x.same v

def common (xs ys : List Value) (ofSet : Bool) : List Value :=
  if ofSet && xs.length < ys.length then xs.filter (holds ys) else ys.filter (holds xs)

def exclusive (xs ys : List Value) : List Value :=
  xs.filter (fun x => !holds ys x) ++ ys.filter fun y => !holds xs y

def of (v : Value) : Except Fault (List Value) := do
  let xs ← v.needElements
  needAllHashable xs
  return distinct xs

def isSet : Value → Bool
  | .set .. => true
  | _ => false

/-- Whether all elements are held, or none is. Those after the first that decides are not looked at. -/
def allAre (wanted : Bool) (xs : List Value) : List Value → Except Fault Bool
  | [] => .ok true
  | y :: ys => do
    y.needHashable
    if holds xs y = wanted then allAre wanted xs ys else return false

def combined (name : String) (xs : List Value) (vs : List Value) : List Value × Except Fault Unit :=
  match name with
  | "intersection" =>
    match vs.foldlM (fun xs v => do return common xs (← of v) (isSet v)) xs with
    | .ok ys => (ys, .ok ())
    | .error f => (xs, .error f)
  | "difference" => takeInAll erase xs vs
  | "symmetric_difference" =>
    match vs.head?.map of with
    | some (.ok ys) => (exclusive xs ys, .ok ())
    | some (.error f) => (xs, .error f)
    | none => (xs, .ok ())
  | _ => takeInAll add xs vs

def operated (operator : String) (xs ys : List Value) : List Value :=
  match operator with
  | "and" => common xs ys true
  | "sub" => xs.filter fun x => !holds ys x
  | "xor" => exclusive xs ys
  | _ => xs ++ ys.filter fun y => !holds xs y

/-- The operation of an operator, and how it takes its operands. -/
def operators : List (String × String × Bool × Bool) := [
  ("__and__", "and", false, false), ("__or__", "or", false, false),
  ("__sub__", "sub", false, false), ("__xor__", "xor", false, false),
  ("__rand__", "and", true, false), ("__ror__", "or", true, false),
  ("__rsub__", "sub", true, false), ("__rxor__", "xor", true, false),
  ("__iand__", "and", false, true), ("__ior__", "or", false, true),
  ("__isub__", "sub", false, true), ("__ixor__", "xor", false, true)]

def withoutUpdate (name : String) : String :=
  if name = "update" then "union" else String.ofList (name.toList.take (name.length - 7))

def method (id : Nat) (frozen : Bool) (xs : List Value) (name : String) (args : List Value) : Reply :=
  let self := Value.set id frozen xs
  let changed (r : Except Fault (List Value)) : Reply := Reply.ofChange (r.map (Value.set id frozen))
  let answered (b : Except Fault Bool) : Reply := Reply.of (b.map Value.bool)
  match name, args with
  | "add", [v] => changed (add xs v)
  | "discard", [v] => changed (erase xs v)
  | "remove", [v] =>
    changed (do
      let rest ← erase xs v
      if holds xs v then return rest else throw (.missingKey v))
  | "union", vs | "intersection", vs | "difference", vs | "symmetric_difference", vs =>
    let (ys, r) := combined name xs vs
    Reply.of (r.map fun _ => .set 0 frozen ys)
  | "update", vs | "intersection_update", vs | "difference_update", vs
  | "symmetric_difference_update", vs =>
    let (ys, r) := combined (withoutUpdate name) xs vs
    ⟨r.map fun _ => .none, some (.set id frozen ys)⟩
  | "__init__", _ :: _ :: _ => Reply.of (Value.tooMany "set" args)
  | "__init__", vs =>
    let (ys, r) := takeInAll add [] vs
    ⟨r.map fun _ => .none, some (.set id frozen ys)⟩
  | "issubset", [v] => answered ((of v).map fun ys => includes ys xs)
  | "issuperset", [v] =>
    if isSet v then answered ((of v).map (includes xs))
    else answered (do allAre true xs (← v.needElements))
  | "isdisjoint", [v] => answered (do allAre false xs (← v.needElements))
  | "__contains__", [v] => answered (self.contains v)
  | _, [.set other otherFrozen ys] =>
    match operators.find? fun o => o.1 = name with
    | some (_, operator, reflected, inPlace) =>
      let zs := if reflected then operated operator ys xs else operated operator xs ys
      if inPlace then Reply.ofSelf (.ok (.set id frozen zs)) else Reply.of (.ok (.set 0 frozen zs))
    | none => Reply.of (compareBy name true self (.set other otherFrozen ys))
  | _, _ => Reply.of (.ok .notImplemented)

end Elements

end Lifecycle
