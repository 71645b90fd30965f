import Lifecycle.World

namespace Lifecycle

abbrev Check (τ : Type) := ExceptT Fault (StateT τ (StateM World))

namespace Check

variable {τ α : Type}

def ofAct (x : Act α) : Check τ α := ExceptT.mk (StateT.lift x.run)

def ofExcept (e : Except Fault α) : Check τ α := ExceptT.mk (pure e)

def runOn (x : Check τ α) (t : τ) : StateM World (Except Fault α × τ) := StateT.run x.run t

instance : MonadLift Act (Check τ) := ⟨ofAct⟩

end Check

/-- Something that keeps a record's pending changes, and takes errors on them. -/
class Tracker (τ : Type) where
  /-- The tracker as a value, where one is looked at. -/
  self : Check τ Value
  schema : Check τ Value
  hasChange (field : Value) : Check τ Value
  getField (field : Value) : Check τ Value
  getOriginal (field : Value) : Check τ Value
  addError (field message : Value) (keys : List (String × Value)) : Check τ Unit

/-- Where no tracker is at hand, every question to one is a fault. -/
instance : Tracker Unit where
  self := pure .none
  schema := absent "schema"
  hasChange _ := absent "has_change"
  getField _ := absent "get_field"
  getOriginal _ := absent "get_original"
  addError _ _ _ := absent "add_error"
where
  absent {α : Type} (name : String) : Check Unit α :=
    throw (.noAttribute "'NoneType' object" name)

inductive Request where
  | schema
  | hasChange (field : Value)
  | getField (field : Value)
  | getOriginal (field : Value)
  | addError (field message : Value) (keys : List (String × Value))

/-- A tracker with fixed answers, which notes what it is asked. -/
structure FixedTracker where
  schema : Value
  changed : Value
  field : Value
  original : Value
  requests : List Request := []

namespace FixedTracker

def note (r : Request) : Check FixedTracker Unit :=
  modifyThe FixedTracker fun t => { t with requests := t.requests ++ [r] }

instance : Tracker FixedTracker where
  self := pure (.sealed 0 "ChangeTracker" "<tracker>")
  schema := do note .schema; return (← getThe FixedTracker).schema
  hasChange f := do note (.hasChange f); return (← getThe FixedTracker).changed
  getField f := do note (.getField f); return (← getThe FixedTracker).field
  getOriginal f := do note (.getOriginal f); return (← getThe FixedTracker).original
  addError f m keys := note (.addError f m keys)

end FixedTracker

end Lifecycle
