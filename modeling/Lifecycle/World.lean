import Lifecycle.Log.Console
import Lifecycle.Rules
import Lifecycle.Settings.Load
import Lifecycle.Template
import Lifecycle.Value.Refresh
import Lifecycle.Value.Shown

namespace Lifecycle

/-- A call of a user's predicate, with the tracker in front or with the two values alone. -/
structure Call where
  hook : String
  withTracker : Bool
  old : Value
  new : Value
  extra : List Value

/-- What operations share: where settings come from, the settings once read, what the values that
change in place came to, the predicates called so far, and the log. -/
structure World where
  surroundings : Surroundings := {}
  cached : Option Settings := none
  latest : Latest := []
  calls : List Call := []
  log : Log.Sink := {}

/-- An operation on the world that may fail; what it did before failing stays done. -/
abbrev Act := ExceptT Fault (StateM World)

namespace Act

def ofExcept {α : Type} (e : Except Fault α) : Act α := ExceptT.mk (pure e)

/-- The settings as first read since the last reset. A failure to read leaves nothing behind. -/
def settings : Act Settings := do
  let w ← get
  match w.cached with
  | some s => return s
  | none =>
    let s ← ofExcept (Settings.load w.surroundings none none [])
    set { w with cached := some s }
    return s

def current (v : Value) : Act Value := do
  let latest := (← get).latest
  return if latest.isEmpty then v else v.refresh latest

/-- Notes what a value that changes in place has come to. One without a number is known nowhere else. -/
def note (id : Nat) (v : Value) : Act Unit :=
  if id = 0 then pure () else modify fun w => { w with latest := w.latest.note id v }

def noteValue (v : Value) : Act Unit :=
  match v with
  | .list id _ | .set id _ _ | .dict id _ => note id v
  | _ => pure ()

def noteChangeset (cs : Changeset) : Act Unit := do
  note cs.id (.changeset cs)
  match cs.changes with
  | .dict id items => note id (.dict id items)
  | _ => pure ()

def leave (v : Value) (rest : List Value → List Value) : Act Unit :=
  match v with
  | .stream id xs => note id (.stream id (rest xs))
  | _ => pure ()

def resetSettings : Act Unit := modify fun w => { w with cached := none }

def log (e : Log.Event) : Act Unit := modify fun w => { w with log := w.log.write e }

def absentToken : Act String := return (← settings).validator.absentToken

/-- A value by itself as it is shown, with the token for an absent one. The token is asked for only where
one is shown. -/
def display (v : Value) : Act String :=
  match v with
  | .none => absentToken
  | v => ofExcept v.shown

def render (template : String) (keys : Table) : Act String := Template.render display template keys

def configureLog (setup : Log.Setup) : Act Unit :=
  modify fun w => { w with log := w.log.configure setup }

def configureLogFromSettings : Act Unit := do
  let s ← settings
  configureLog ⟨s.verbose, s.logJson⟩

/-- The domain that a declaration stands for. States are drawn from a stream up to the first that
cannot be one. -/
def declare (on : Value) : Act Domain := do
  let on ← current on
  leave on fun xs => (xs.dropWhile Value.isHashable).drop 1
  ofExcept (Domain.declare on)

/-- Expands rules over a declared domain and notes how many pairs came of it. Entries are drawn from a
stream up to the first at fault. -/
def expand (on rules : Value) : Act Expansion := do
  let d ← declare on
  let rules ← current rules
  leave rules d.undrawn
  let e ← ofExcept (d.expand rules)
  log {
    front := .plain
    logger := "statetransit.domain.rules"
    level := .debug
    message := "Compiled " ++ toString e.pairs.length ++ " transition pairs from " ++
      toString e.entries ++ " rule entries over " ++ d.repr }
  return e

def compile (on rules : Value) : Act Matcher := return Matcher.ofExpansion (← expand on rules)

end Act

end Lifecycle
