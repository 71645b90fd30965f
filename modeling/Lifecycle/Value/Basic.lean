import Lifecycle.Number.Binary64
import Lifecycle.Value.Moment

namespace Lifecycle

/-- How the members of an enumeration relate to their values. Plain members equal nothing but
themselves; the others are texts or numbers, equal to their value. -/
inductive EnumKind where
  | plain
  /-- Displayed as the text it is. -/
  | textual
  /-- Displayed by its name, though it is a text. -/
  | namedText
  | numeric
  deriving DecidableEq

mutual

/-- What states, record fields, settings and messages are made of, together with the declared
things that may stand where data stands. Things that differ though they look alike carry a number, and
so do those that change in place, which hold what they held when last seen. -/
inductive Value where
  | none
  | bool (b : Bool)
  | int (n : Int)
  | float (x : Binary64)
  | text (s : String)
  | bytes (bs : List UInt8)
  | list (id : Nat) (xs : List Value)
  | tuple (xs : List Value)
  | set (id : Nat) (frozen : Bool) (xs : List Value)
  | dict (id : Nat) (items : List (Value × Value))
  | range (start stop step : Int)
  | stream (id : Nat) (xs : List Value)
  | moment (m : Moment)
  | member (of : Enumeration) (name : String) (value : Value)
  | enumeration (e : Enumeration)
  | type (name : String)
  | owner (c : Owner)
  | record (id : Nat) (of : Owner) (fields : List (String × Value))
  | bundle (fields : List (String × Value))
  | row (columns : List (String × Value))
  | sealed (id : Nat) (type label : String)
  | hook (h : Hook)
  | provider (id : Nat) (p : Provider)
  | domain (id : Nat) (d : Domain)
  | matcher (m : Matcher)
  | strategy (id : Nat) (s : Strategy)
  | changeset (cs : Changeset)
  | fieldError (e : FieldError)
  | method (kind : String) (owner : Value) (name : String)

/-- Members in order of declaration; a name that repeats an earlier member's value is an alias. -/
inductive Enumeration where
  | mk (name : String) (kind : EnumKind) (members : List (String × Value))
      (aliases : List (String × String))

inductive Owner where
  | mk (id : Nat) (name : String) (attributes : List (String × Attribute))

/-- A class attribute: a plain value, or a rule set compiled under the attribute's name. -/
inductive Attribute where
  | plain (v : Value)
  | rules (m : Matcher)

/-- A user's predicate: what it answers, and what it does to the tracker it is given. -/
inductive Hook where
  | mk (id : Nat) (name : String) (action : Action)

inductive Action where
  | const (v : Value)
  | old
  | new
  | extra (i : Int)
  | pairs (allowed : List Value)
  | getField (field : Value)
  | hasChange (field : Value)
  | addError (field message : Value)
  | raise (message : String)
  /-- Passes the two values on to a query of something else. -/
  | query (target : Value) (name : String)

/-- Where a dual domain takes its primaries and their alternates from. -/
inductive Provider where
  | enumeration (e : Enumeration)
  | mapping (items : List (Value × Value))
  | custom (name : String) (items : List (Value × Value)) (types : List String)
      (valid : List Value)

/-- The states one rule set is about: distinct values, or primaries each with one alternate. -/
inductive Domain where
  | flat (states : List Value)
  | dual (provider : Provider) (alternates : List (Value × Value))

/-- The compiled pairs, without repetition, and the domain they were compiled over. -/
inductive Matcher where
  | mk (pairs : List Value) (domain : Option Domain)

/-- How a pending change is judged. -/
inductive Strategy where
  | recordMethod (name : Value)
  | matcher (m : Value)
  | predicate (f : Value)
  | external (target operation extra : Value)
  | custom (f : Value)

/-- A record as it was read, its pending changes, the type that owns its rules, and the errors found. -/
inductive Changeset where
  | mk (id : Nat) (data changes schema : Value) (errors : List FieldError)

/-- An error on a field, with its message's template and what the template's names stand for. -/
inductive FieldError where
  | mk (field template : String) (keys : List (String × Value))

end

namespace Enumeration

def name : Enumeration → String
  | mk n .. => n

def kind : Enumeration → EnumKind
  | mk _ k .. => k

def members : Enumeration → List (String × Value)
  | mk _ _ ms _ => ms

def aliases : Enumeration → List (String × String)
  | mk _ _ _ as => as

end Enumeration

namespace Owner

def id : Owner → Nat
  | mk i .. => i

def name : Owner → String
  | mk _ n _ => n

def attributes : Owner → List (String × Attribute)
  | mk _ _ as => as

end Owner

namespace Hook

def name : Hook → String
  | mk _ n _ => n

def action : Hook → Action
  | mk _ _ a => a

end Hook

namespace Matcher

def pairs : Matcher → List Value
  | mk ps _ => ps

def domain : Matcher → Option Domain
  | mk _ d => d

end Matcher

namespace FieldError

def field : FieldError → String
  | mk f .. => f

def template : FieldError → String
  | mk _ t _ => t

def keys : FieldError → List (String × Value)
  | mk _ _ ks => ks

end FieldError

namespace Changeset

def id : Changeset → Nat
  | mk i .. => i

def data : Changeset → Value
  | mk _ d .. => d

def changes : Changeset → Value
  | mk _ _ c _ _ => c

def schema : Changeset → Value
  | mk _ _ _ s _ => s

def errors : Changeset → List FieldError
  | mk _ _ _ _ es => es

def withChanges (cs : Changeset) (changes : Value) : Changeset :=
  .mk cs.id cs.data changes cs.schema cs.errors

def withErrors (cs : Changeset) (errors : List FieldError) : Changeset :=
  .mk cs.id cs.data cs.changes cs.schema errors

end Changeset

instance : Inhabited Value := ⟨.none⟩

def field? {α : Type} (name : String) (fields : List (String × α)) : Option α :=
  (fields.find? fun f => f.1 = name).map (·.2)

end Lifecycle
