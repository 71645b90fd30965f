import Lifecycle.Log.Hierarchy
import Lifecycle.Value.Attribute
import Lifecycle.Value.Directive

namespace Lifecycle.Log

/-- Ways in that a structured logger has as long as nothing is set up. -/
def looseMethods : List String := ["msg", "log", "err", "failure"]

def methodName (method : String) : String :=
  "BoundLogger." ++ if method = "warn" then "warning" else method

def isShown (k : String × Value) : Bool :=
  k.1 ≠ "_record" && k.1 ≠ "_from_structlog" && k.1 ≠ "stack_info"

def withFailure (method : String) (keywords : List (String × Value)) : List (String × Value) :=
  if method = "exception" && (field? "exc_info" keywords).isNone then
    keywords ++ [("exc_info", .bool true)]
  else keywords

/-- A call of a structured logger's method, by name. Before any set-up its entries go elsewhere. -/
def structuredEntry (setup : Hierarchy) (logger method message : String)
    (keywords : List (String × Value)) : Except Fault (Option Event) := do
  match setup.structured, Level.ofMethod? method with
  | false, some _ => return none
  | false, none =>
    if looseMethods.contains method then return none
    else throw (.noAttribute "'BoundLoggerFilteringAtNotset' object" method)
  | true, none => throw (.noAttribute "'BoundLogger' object" method)
  | true, some level =>
    needFreeNames (methodName method) ["self", "event"] keywords
    needFreeNames "BoundLogger._proxy_to_logger" ["method_name"] keywords
    match field? "_record" keywords with
    | none | some .none => pure ()
    | some record => let _ ← record.requireAttribute "name"
    return some {
      front := .structured, logger, level, message
      keywords := (withFailure method keywords).filter isShown }

/-- What the arguments of a message supply: a single mapping supplies values by name if it is not empty. -/
def supplyOf : List Value → Supply
  | [.dict id (e :: items)] => ⟨[.dict id (e :: items)], some (.dict id (e :: items))⟩
  | args => ⟨args, none⟩

def message? (template : String) (args : List Value) : Option String :=
  if args.isEmpty then some template
  else (fill false (Directive.piecesOf template) (supplyOf args)).toOption

/-- A call of a plain logger's method, by name. Its message is put together only at a level that is
written, and not written if that fails. -/
def plainEntry (setup : Hierarchy) (logger method template : String) (args : List Value) :
    Except Fault (Option Event) :=
  match Level.ofMethod? method with
  | none =>
    let isTop := logger = "" || logger = "root"
    .error (.noAttribute (if isTop then "'RootLogger' object" else "'Logger' object") method)
  | some level =>
    let e : Event := {
      front := .plain, logger, level, message := template, tellsFailure := method = "exception" }
    if setup.reaches logger level then
      .ok ((message? template args).map fun m => { e with message := m })
    else .ok none

end Lifecycle.Log
