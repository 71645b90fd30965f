import Lifecycle.Collection

namespace Lifecycle.Document.Toml

/-- Why a table may not be written to again: it was given whole, or it was opened by its name. -/
inductive Guard where
  | frozen
  | opened
  deriving DecidableEq

/-- A guard on a table; a deep one holds for all that lies below it too. -/
structure Mark where
  path : List String
  guard : Guard
  deep : Bool

/-- The marks set so far, and those that take effect when the next table is opened. -/
structure Marks where
  set : List Mark
  pending : List Mark

namespace Marks

def empty : Marks := ⟨[], []⟩

def holds (m : Marks) (path : List String) (guard : Guard) : Bool :=
  m.set.any fun x => x.guard = guard && (x.path = path || (x.deep && x.path.isPrefixOf path))

def add (m : Marks) (x : Mark) : Marks := { m with set := x :: m.set }

def postpone (m : Marks) (x : Mark) : Marks := { m with pending := x :: m.pending }

def settle (m : Marks) : Marks := ⟨m.pending ++ m.set, []⟩

def release (m : Marks) (path : List String) : Marks :=
  { m with set := m.set.filter fun x => !path.isPrefixOf x.path }

end Marks

def putText (t : Table) (name : String) (v : Value) : Table := Table.put t (.text name) v

/-- Changes the table at a path, made where there is none yet. A list stands for its last table if
lists may be entered; anything else in the way is a failure. -/
def changeAt (enterLists : Bool) (change : Table → Option Table) :
    List String → Table → Option Table
  | [], t => change t
  | k :: path, t =>
    match Table.lookup? t (.text k) with
    | none => (changeAt enterLists change path []).map fun below => putText t k below.value
    | some (.dict _ below) =>
      (changeAt enterLists change path below).map fun below => putText t k below.value
    | some (.list _ xs) =>
      match enterLists, xs.getLast? with
      | true, some (.dict _ below) =>
        (changeAt enterLists change path below).map fun below =>
          putText t k (.list 0 (xs.dropLast ++ [below.value]))
      | _, _ => none
    | some _ => none

def addEntry (name : String) (v : Value) (t : Table) : Option Table :=
  if Table.hasKey t (.text name) then none else some (putText t name v)

def addToList (name : String) (t : Table) : Option Table :=
  match Table.lookup? t (.text name) with
  | none => some (putText t name (.list 0 [.dict 0 []]))
  | some (.list _ xs) => some (putText t name (.list 0 (xs ++ [.dict 0 []])))
  | some _ => none

def splitKey (key : List String) : List String × String := (key.dropLast, key.getLastD "")

def isNest : Value → Bool
  | .dict .. | .list .. => true
  | _ => false

end Lifecycle.Document.Toml
