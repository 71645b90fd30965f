import Lifecycle.Changeset
import Lifecycle.Value.MethodAnswer

namespace Lifecycle

/-- What a predicate is called with: the two values, or a tracker, the two values and more. -/
inductive Arguments where
  | values (old new : Value)
  | tracked (old new : Value) (extra : List Value)

namespace Arguments

def old : Arguments → Value
  | values o _ => o
  | tracked o _ _ => o

def new : Arguments → Value
  | values _ n => n
  | tracked _ n _ => n

def extra : Arguments → List Value
  | values .. => []
  | tracked _ _ e => e

def hasTracker : Arguments → Bool
  | values .. => false
  | tracked .. => true

def toList (self : Value) : Arguments → List Value
  | values o n => [o, n]
  | tracked o n extra => self :: .tuple [o, n] :: extra

end Arguments

/-- A method of a matcher. Two values are judged; a tracker in the place of the first is no state. -/
def Matcher.answer (m : Matcher) (name : String) (args : List Value) : Act Value :=
  match name, args with
  | "compile", [on, rules] => return .matcher (← Act.compile on rules)
  | _, [old, new] => return .bool (m.allowed old new)
  | _, _ => return .none

def Domain.answer (d : Domain) (args : List Value) : Act Value :=
  match args with
  | [source, target] => do
    let pairs ← Act.ofExcept (d.concretePairs source target)
    return .list 0 (pairs.map Pair.value)
  | _ => return .none

def Changeset.answer (cs : Changeset) (name : String) (args : List Value) : Act Value :=
  match name, args with
  | "change", [data, changes] =>
    return .changeset (← Act.ofExcept (Changeset.change data changes [] .none))
  | "add_error", [field, message] => do
    let after ← Act.ofExcept (cs.addError field message [])
    Act.noteChangeset after
    return .changeset after
  | _, _ => return .none

def answerDeclared (owner : Value) (name : String) (args : List Value) : Act Value := do
  match owner, name, args with
  | .type "TransitionMatcher", "compile", _ => (Matcher.mk [] none).answer name args
  | .type "Changeset", "change", _ => (Changeset.new .none .none .none).answer name args
  | .matcher m, _, _ => m.answer name args
  | .domain _ d, "concrete_pairs", _ => d.answer args
  | .changeset cs, _, _ => cs.answer name args
  | .enumeration _, "__deepcopy__", v :: _ => return v
  | .enumeration _, "__format__", [v, spec] =>
    return .text (← Act.ofExcept (do
      (Value.text v.display).formatted (← Value.needTextArgument "__format__" "" spec)))
  | .enumeration _, "__reduce_ex__", v :: _ => Act.ofExcept (v.requireAttribute "_value_")
  | _, _, _ => return .none

def drawingMethods : List String := ["join", "extend", "update", "union", "intersection", "difference",
  "symmetric_difference", "intersection_update", "difference_update", "symmetric_difference_update",
  "issubset", "issuperset", "isdisjoint", "fromkeys", "__iadd__", "__ior__", "__init__", "__new__",
  "from_bytes"]

/-- Notes what a method that goes through its arguments leaves of them. -/
def leaveDrawn (name : String) (args : List Value) : Act Unit :=
  if drawingMethods.contains name then args.forM fun v => Act.leave v fun _ => [] else pure ()

def answerOn (m : PlainMethod) (v : Value) (name : String) (args : List Value) : Act Value := do
  let reply := m.answer (← Act.current v) name (← args.mapM Act.current)
  if let some after := reply.after then Act.noteValue after
  leaveDrawn name args
  Act.ofExcept reply.answer

def answerPlain (m : PlainMethod) (unbound : Bool) (owner : Value) (name : String)
    (args : List Value) : Act Value := do
  let type := owner.asTypeName?.getD owner.typeName.name
  if m.ofType || m.type = "type" then
    Act.ofExcept (m.arity.accept type name args.length)
    let args ← args.mapM Act.current
    leaveDrawn name args
    Act.ofExcept (m.answerOfType name args)
  else match unbound, args with
    | false, _ =>
      Act.ofExcept (m.arity.accept type name args.length)
      answerOn m owner name args
    | true, v :: rest =>
      Act.ofExcept (do
        m.needOwner name v
        m.arity.accept m.type name rest.length)
      answerOn m v name rest
    | true, [] => return .none

def answerMethod (owner : Value) (name : String) (args : List Value) : Act Value := do
  let isType := owner.asType?.isSome
  let (type, signatures) := owner.signatures
  match Signature.find? signatures name, owner.plainMethod? name with
  | some s, _ =>
    Act.ofExcept (s.accept type (if isType && !s.ofType then args.length - 1 else args.length))
    answerDeclared owner name args
  | none, some (m, unbound) => answerPlain m unbound owner name args
  | none, none =>
    if let some s := Signature.find? Signature.ofEnumerations name then
      Act.ofExcept (s.accept "EnumType" args.length)
    return .none

namespace Value

/-- What is called in the place of a record: what its class declares calls of it to be. The fuel bounds
how often that is a record again. -/
def callee : Nat → Value → Value
  | 0, v => v
  | fuel + 1, v =>
    match v.declared? "__call__" with
    | some f => callee fuel f
    | Option.none => v

def callWith (f : Value) (args : List Value) : Act Value := do
  match f with
  | owner c => throw (.misuse (.noArguments c.name))
  | type name => Act.ofExcept (construct name args)
  | enumeration e => Act.ofExcept (e.call args)
  | matcher _ => answerMethod f "__call__" args
  | method _ target "__call__" =>
    match target with
    | owner c => throw (.misuse (.noArguments c.name))
    | type name => Act.ofExcept (construct name args)
    | enumeration e => Act.ofExcept (e.call args)
    | target => answerMethod target "__call__" args
  | method _ target name => answerMethod target name args
  | v => throw (.misuse (.notCallable v.longTypeName))

end Value

variable {τ : Type} [Tracker τ]

namespace Hook

def ask {α : Type} (a : Arguments) (name : String) (question : Check τ α) : Check τ α :=
  if a.hasTracker then question else throw (.noAttribute "'NoneType' object" name)

def isPair (old new : Value) : Value → Bool
  | .tuple [o, n] | .list _ [o, n] => o.same old && n.same new
  | _ => false

/-- Notes the call and answers as scripted. -/
def call (h : Hook) (a : Arguments) : Check τ Value := do
  modifyThe World fun w =>
    { w with calls := w.calls ++ [⟨h.name, a.hasTracker, a.old, a.new, a.extra⟩] }
  match h.action with
  | .const v => return v
  | .old => return a.old
  | .new => return a.new
  | .extra i =>
    match (placeOf? a.extra.length i).bind fun n => a.extra[n]? with
    | some v => return v
    | none => throw (.outOfRange "tuple")
  | .pairs allowed => return .bool (allowed.any (isPair a.old a.new))
  | .getField f => ask a "get_field" (Tracker.getField f)
  | .hasChange f => ask a "has_change" (Tracker.hasChange f)
  | .addError f m => do
    ask a "add_error" (Tracker.addError f m [("old", a.old), ("new", a.new)])
    return .bool true
  | .raise m => throw (.raised m)
  | .query target name => (← Check.ofExcept (target.find name)).callWith [a.old, a.new]

end Hook

namespace Value

def call (f : Value) (a : Arguments) : Check τ Value := do
  match f.callee 100 with
  | hook h | method _ (hook h) "__call__" => h.call a
  | f => f.callWith (a.toList (← Tracker.self))

end Value

def findQuery (target name : Value) : Except Fault Value := do
  match name.text? with
  | none => throw (.misuse (.attributeName name.longTypeName))
  | some n =>
    match ← target.lookup n with
    | some f => if f.isCallable then return f else throw (.noQuery target.label name)
    | none => throw (.noQuery target.label name)

end Lifecycle
