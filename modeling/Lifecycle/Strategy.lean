import Lifecycle.Callable

namespace Lifecycle

variable {τ : Type} [Tracker τ]

namespace Strategy

/-- The strategy that a specification stands for: the default query, a strategy itself, a matcher,
the name of a query, a target with an operation and arguments, or any other callable. -/
def resolve (spec : Value) : Act Strategy := do
  match spec with
  | .none => return .recordMethod (.text (← Act.settings).validator.name)
  | .strategy _ s => return s
  | .matcher m => return .matcher (.matcher m)
  | .tuple [target, operation, extra] =>
    if operation.text?.isNone then throw (.notAnExternal spec)
    let extra ← Act.current extra
    Act.leave extra fun _ => []
    match extra.elements? with
    | some xs => return .external target operation (.tuple xs)
    | none => throw (extra.drawFault (.misuse (.notIterable extra.longTypeName)))
  | .tuple _ => throw (.notAnExternal spec)
  | _ =>
    if spec.text?.isSome then return .recordMethod spec
    else if spec.isCallable then return .predicate spec
    else throw (.notAStrategy spec)

def extraOf (extra : Value) : Act (List Value) := do
  let extra ← Act.current extra
  Act.leave extra fun _ => []
  match extra.elements? with
  | some xs => return xs
  | none =>
    throw (extra.drawFault
      (.misuse (.told ("Value after * must be an iterable, not " ++ extra.longTypeName))))

/-- Judges a move. All but a matcher and a user's own strategy answer with a plain truth value. A
strategy may be the target of another one, which judges with it. -/
def evaluate (s : Strategy) (old new : Value) : Check τ Value := do
  match s with
  | .recordMethod name =>
    let f ← Check.ofExcept (findQuery (← Tracker.schema) name)
    return .bool (← Check.ofExcept (← f.call (.values old new)).truthOf)
  | .matcher (.matcher m) => return .bool (m.allowed old new)
  | .matcher v =>
    let f ← Check.ofExcept (v.find "allowed")
    f.call (.values old new)
  | .predicate f => return .bool (← Check.ofExcept (← f.call (.tracked old new [])).truthOf)
  | .external (.strategy id inner) operation extra =>
    let f ← Check.ofExcept (findQuery (.strategy id inner) operation)
    match operation.text?, ← extraOf extra with
    | some "evaluate", [x] => return .bool (← Check.ofExcept (← inner.evaluate (.tuple [old, new]) x).truthOf)
    | _, xs => return .bool (← Check.ofExcept (← f.call (.tracked old new xs)).truthOf)
  | .external target operation extra =>
    let f ← Check.ofExcept (findQuery target operation)
    let xs ← extraOf extra
    return .bool (← Check.ofExcept (← f.call (.tracked old new xs)).truthOf)
  | .custom f => f.call (.tracked old new [])

end Strategy

end Lifecycle
