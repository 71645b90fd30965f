import Lifecycle.Fault

namespace Lifecycle

/-- The objects that stay as they were made. -/
inductive Frozen where
  | matcher
  | recordMethod
  | matcherStrategy
  | predicate
  | external
  | fieldError
  | options
  | outcome
  | settings
  | validatorDefaults
  deriving DecidableEq

namespace Frozen

def typeName : Frozen → String
  | matcher => "TransitionMatcher"
  | recordMethod => "RecordMethod"
  | matcherStrategy => "MatcherStrategy"
  | predicate => "Predicate"
  | external => "ExternalOperation"
  | fieldError => "FieldError"
  | options => "TransitOptions"
  | outcome => "TransitionOutcome"
  | settings => "TransitSettings"
  | validatorDefaults => "ValidatorConfig"

/-- Whether an object's fields were checked when it was made, so that what is wrong with one is an
issue. Only its public names are frozen. -/
def isChecked : Frozen → Bool
  | fieldError | options | outcome | settings | validatorDefaults => true
  | matcher | recordMethod | matcherStrategy | predicate | external => false

def assignType (o : Frozen) (v : Value) : Except Fault Unit :=
  match v, v.asTypeName? with
  | .type name, _ =>
    if name = o.typeName then .ok ()
    else .error (.misuse (.told
      "__class__ assignment only supported for mutable types or ModuleType subclasses"))
  | _, some name =>
    .error (.misuse (.told ("__class__ assignment: '" ++ name ++ "' object layout differs from '" ++
      o.typeName ++ "'")))
  | _, none =>
    .error (.misuse (.told ("__class__ must be set to a class, not '" ++ v.longTypeName ++
      "' object")))

/-- Assigns a private name of a checked object: a few hold what the object itself needs, and all others
take any value. -/
def assignPrivate (o : Frozen) (name : String) (v : Value) : Except Fault Unit :=
  match name, v with
  | "__dict__", .dict .. => .ok ()
  | "__dict__", _ =>
    .error (.misuse (.told ("__dict__ must be set to a dictionary, not a '" ++ v.longTypeName ++ "'")))
  | "__class__", _ => o.assignType v
  | "__fields_set__", _ => .error (.noSetter name o.typeName)
  | "__weakref__", _ => .error (.notWritable name o.typeName)
  | _, _ => .ok ()

def assign (o : Frozen) (field : String) (v : Value) : Except Fault Unit :=
  if !o.isChecked then .error (.assignsFrozen field)
  else if field.startsWith "_" then o.assignPrivate field v
  else .error (.rejected [Issue.at field .frozen])

def delete (o : Frozen) (field : String) : Fault :=
  if o.isChecked then .rejected [Issue.at field .frozen] else .deletesFrozen field

end Frozen

end Lifecycle
