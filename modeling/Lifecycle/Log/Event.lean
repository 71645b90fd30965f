import Lifecycle.Value.Basic

namespace Lifecycle.Log

inductive Level where
  | debug
  | info
  | warning
  | error
  | critical
  deriving DecidableEq

namespace Level

def rank : Level → Nat
  | debug => 10
  | info => 20
  | warning => 30
  | error => 40
  | critical => 50

def name : Level → String
  | debug => "debug"
  | info => "info"
  | warning => "warning"
  | error => "error"
  | critical => "critical"

def ofMethod? : String → Option Level
  | "debug" => some debug
  | "info" => some info
  | "warning" | "warn" => some warning
  | "error" | "exception" => some error
  | "critical" | "fatal" => some critical
  | _ => none

end Level

/-- Which of the two ways in an event came by. -/
inductive Front where
  | plain
  | structured
  deriving DecidableEq

structure Event where
  front : Front
  logger : String
  level : Level
  message : String
  keywords : List (String × Value) := []
  /-- Whether the failure at hand is to be told of, though there is none. -/
  tellsFailure : Bool := false

end Lifecycle.Log
