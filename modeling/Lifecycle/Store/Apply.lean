import Lifecycle.Changeset
import Lifecycle.Store.Relation

namespace Lifecycle

/-- A version one above another; an absent or empty one counts as zero. -/
def nextVersion (current : Value) : Except Fault Value :=
  if current.truth then
    match current, current.int? with
    | .float x, _ => .ok (.float x.succ)
    | _, some n => .ok (.int (n + 1))
    | v, none => .error (.misuse (.notSummable v))
  else .ok (.int 1)

/-- A conditional write: the row it is meant for, the version it was read at, and what it sets. -/
structure Write where
  key : String
  keyValue : Value
  guard : Option (String × Value)
  values : Table
  version : Value

namespace Write

/-- The write that carries out a changeset's pending changes, for a table with the columns it needs. -/
def ofChangeset (t : Relation) (cs : Changeset) (key : String) (lock : Option String) :
    Except Fault Write := do
  let keyValue ← cs.getOriginal (.text key)
  let pending ← cs.changes.toTable
  t.requireColumn key
  match lock with
  | none => return ⟨key, keyValue, none, pending, .none⟩
  | some column =>
    let current ← cs.getOriginal (.text column)
    let version ← nextVersion current
    t.requireColumn column
    return ⟨key, keyValue, some (column, current), Table.put pending (.text column) version, version⟩

def conditions (w : Write) : Except Fault (List Condition) := do
  let key := Condition.mk w.key (← Cell.ofValue w.keyValue)
  match w.guard with
  | none => return [key]
  | some (column, current) => return [key, ⟨column, ← Cell.ofValue current⟩]

def columnNames (values : Table) : Except Fault (List (String × Value)) := do
  let named ← values.mapM fun (k, v) =>
    match k.text? with
    | some n => .ok (n, v)
    | none => .error (.misuse .keywordName)
  needFreeNames "ValuesBase.values" ["self"] named
  return named

def cells (t : Relation) (values : Table) : Except Fault (List (String × Cell)) := do
  let named ← columnNames values
  if named.any fun (n, _) => (t.column? n).isNone then throw .unknownColumn
  (t.columns.filterMap fun c => (field? c.name named).map fun v => (c.name, v)).mapM
    fun (n, v) => return (n, ← Cell.ofValue v)

/-- Carries a write out, and counts the rows it was for. One that sets nothing only looks. -/
def run (t : Relation) (w : Write) : Except Fault (Relation × Nat) := do
  if w.values.isEmpty then return (t, t.count (← w.conditions))
  let cs ← cells t w.values
  t.update (← w.conditions) cs

def commit (t : Relation) (w : Write) : Except Fault Relation := do
  let (after, count) ← w.run t
  if count = 0 then throw (.staleRecord t.name w.key w.keyValue)
  return after

end Write

namespace Changeset

def appliedEvent (t : Relation) (fields : List String) (keyValue : Value) : Log.Event where
  front := .plain
  logger := "statetransit.infrastructure.locking"
  level := .debug
  message :=
    "Applied [" ++ commaSeparated ((fields.mergeSort (· ≤ ·)).map Text.quoted) ++ "] to " ++ t.name ++
      " row " ++ keyValue.repr

/-- Writes a valid changeset to its row, if that is still as it was read, and answers the new
version. -/
def apply (t : Relation) (cs : Changeset) (key : String) (lock : Option String) :
    Act (Relation × Value) := do
  if !cs.isValid then throw (.invalidChangeset (← cs.errorsOn))
  let w ← Act.ofExcept (Write.ofChangeset t cs key lock)
  let after ← Act.ofExcept (w.commit t)
  let fields := ((cs.changes.elements?.getD []).filterMap Value.text?)
  Act.log (appliedEvent t fields w.keyValue)
  return (after, w.version)

end Changeset

end Lifecycle
