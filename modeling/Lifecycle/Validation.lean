import Lifecycle.Changeset
import Lifecycle.Strategy

namespace Lifecycle

structure Options where
  required : Bool
  message : String
  strategy : Value

namespace Options

def knownNames : List String := ["required", "message", "using"]

def unknownNames (given : List (String × Value)) : List Issue :=
  given.filterMap fun (n, _) =>
    if knownNames.contains n then none else some (Issue.at n .unexpected)

/-- An option coerced, or its default, which is looked up only where the option is not given. -/
def option {α : Type} (given : List (String × Value)) (name : String)
    (coerce : Value → Except IssueKind α) (default : Act α) : Act (Checked α) :=
  match field? name given with
  | some v => return Checked.ofExcept [.name name] (coerce v)
  | none => return Checked.ok (← default)

def make (given : List (String × Value)) : Act Options := do
  let required ← option given "required" Coercion.truth (return (← Act.settings).validator.required)
  let message ← option given "message" Coercion.text (return (← Act.settings).validator.message)
  let strategy := (field? "using" given).getD .none
  Act.ofExcept (((required.both message).map fun (r, m) => (⟨r, m, strategy⟩ : Options)).also
    (unknownNames given)).result

end Options

structure Outcome where
  field : String
  allowed : Bool
  skipped : Bool
  old : Value
  new : Value

namespace Outcome

def checkTruth (name : String) : Option Value → Option Bool → Checked Bool
  | some v, _ => Checked.ofExcept [.name name] (Coercion.truth v)
  | none, some default => Checked.ok default
  | none, none => Checked.failed [Issue.at name .missing]

def make (given : List (String × Value)) : Except Fault Outcome :=
  let field := FieldError.checkText "field" (field? "field" given)
  let allowed := checkTruth "allowed" (field? "allowed" given) none
  let skipped := checkTruth "skipped" (field? "skipped" given) (some false)
  let old := (field? "old" given).getD .none
  let new := (field? "new" given).getD .none
  (((field.both allowed).both skipped).map fun ((f, a), s) => (⟨f, a, s, old, new⟩ : Outcome)).result

end Outcome

variable {τ : Type} [Tracker τ]

/-- Decides whether the change on a field is allowed. The strategy is resolved before the tracker is
asked anything; an unchanged field that need not be checked is passed over. -/
def checkField (field : Value) (o : Options) : Check τ Outcome := do
  let s ← Strategy.resolve o.strategy
  let changed ← Tracker.hasChange field
  if !(← Check.ofExcept changed.truthOf) && !o.required then
    Check.ofExcept (Outcome.make [("field", field), ("allowed", .bool true), ("skipped", .bool true)])
  else
    let new ← Tracker.getField field
    let old ← Tracker.getOriginal field
    let allowed ← s.evaluate old new
    let old ← Act.current old
    let new ← Act.current new
    Check.ofExcept (Outcome.make [("field", field), ("allowed", allowed), ("old", old), ("new", new)])

def rejectionEvent (field : Value) (o : Outcome) : Log.Event where
  front := .plain
  logger := "statetransit.services.validate"
  level := .debug
  message := "Rejected transition on " ++ field.display ++ ": " ++ o.old.repr ++ " -> " ++ o.new.repr

def validateWith (field : Value) (o : Options) : Check τ Unit := do
  let outcome ← checkField field o
  if !outcome.allowed then
    Act.log (rejectionEvent field outcome)
    Tracker.addError field (.text o.message) [("old", outcome.old), ("new", outcome.new)]

def validateField (field : Value) (given : List (String × Value)) : Check τ Unit := do
  Check.ofExcept (needFreeNames "validate_transition" ["changeset", "field"] given)
  validateWith field (← Options.make given)

end Lifecycle
