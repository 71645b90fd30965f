import Lifecycle.Store.Cell

namespace Lifecycle

structure Column where
  name : String
  type : ColumnType
  isKey : Bool
  required : Bool

abbrev Row := List (String × Cell)

/-- A table of the store: its columns, and its rows in the order in which they are found. -/
structure Relation where
  name : String
  columns : List Column
  rows : List Row

namespace Row

def cell (r : Row) (column : String) : Cell := (field? column r).getD .null

def value (r : Row) : Value := .row (r.map fun (n, c) => (n, c.toValue))

def overwrite (r : Row) (cells : List (String × Cell)) : Row :=
  r.map fun (n, c) => (n, (field? n cells).getD c)

end Row

/-- A condition on a row: a column holds a cell, where an absent one stands for being empty. -/
structure Condition where
  column : String
  cell : Cell

namespace Relation

def column? (t : Relation) (name : String) : Option Column := t.columns.find? fun c => c.name = name

def keyNames (t : Relation) : List String := (t.columns.filter (·.isKey)).map (·.name)

/-- The one key column of whole numbers by which rows are kept in order, if that is the key. -/
def orderColumn? (t : Relation) : Option String :=
  match t.columns.filter (·.isKey) with
  | [c] => if c.type = .int then some c.name else none
  | _ => none

def orderOf (column : String) (r : Row) : Int :=
  match r.cell column with
  | .int n => n
  | _ => 0

def inOrder (t : Relation) (rows : List Row) : List Row :=
  match t.orderColumn? with
  | some column => rows.mergeSort fun a b => orderOf column a ≤ orderOf column b
  | none => rows

def conformTo (t : Relation) (column : String) (c : Cell) : Cell :=
  match t.column? column with
  | some col => c.conform col.type
  | none => c

/-- Whether a condition can hold at all: the column that orders the rows is never anything but a whole
number. -/
def canHold (t : Relation) (column : String) : Cell → Bool
  | .int _ => true
  | _ => t.orderColumn? ≠ some column

def holdsFor (t : Relation) (r : Row) (c : Condition) : Bool :=
  match c.cell with
  | .null => r.cell c.column = .null
  | x =>
    let x := t.conformTo c.column x
    t.canHold c.column x && (r.cell c.column).equals x

def selects (t : Relation) (conditions : List Condition) (r : Row) : Bool :=
  conditions.all (t.holdsFor r)

def rowIsSound (t : Relation) (r : Row) : Bool :=
  t.columns.all fun c =>
    (!(c.required || c.isKey) || r.cell c.name ≠ .null) &&
      (t.orderColumn? ≠ some c.name || match r.cell c.name with
        | .int _ => true
        | _ => false)

def keyOf (t : Relation) (r : Row) : List Key := t.keyNames.map fun n => (r.cell n).toValue.key

def keysDiffer (t : Relation) : List Row → Bool
  | [] => true
  | r :: rest => rest.all (fun other => t.keyOf r ≠ t.keyOf other) && t.keysDiffer rest

def isSound (t : Relation) (rows : List Row) : Bool :=
  rows.all t.rowIsSound && (t.keyNames.isEmpty || t.keysDiffer rows)

/-- Writes cells into the rows that the conditions select, all or none, and counts those rows. -/
def update (t : Relation) (conditions : List Condition) (cells : List (String × Cell)) :
    Except Fault (Relation × Nat) :=
  let conformed := cells.map fun (n, c) => (n, t.conformTo n c)
  let rows := t.rows.map fun r => if t.selects conditions r then r.overwrite conformed else r
  let count := t.rows.countP (t.selects conditions)
  if count = 0 then .ok (t, 0)
  else if t.isSound rows then .ok ({ t with rows := t.inOrder rows }, count)
  else .error .brokenConstraint

def count (t : Relation) (conditions : List Condition) : Nat := t.rows.countP (t.selects conditions)

def requireColumn (t : Relation) (name : String) : Except Fault Unit :=
  if (t.column? name).isSome then .ok () else .error (.missingKey (.text name))

def cellsLe : List Cell → List Cell → Bool
  | a :: as, b :: bs => if a.equals b then cellsLe as bs else a.le b
  | _, _ => true

/-- The rows in the order in which a search by a column comes upon them: by their keys, where the column
is the first of several in the key. -/
def searched (t : Relation) (column : String) : List Row :=
  let names := t.keyNames
  if 1 < names.length && names.head? = some column then
    t.rows.mergeSort fun r s => cellsLe (names.map r.cell) (names.map s.cell)
  else t.rows

def first? (t : Relation) (column : String) (v : Value) : Except Fault (Option Row) := do
  t.requireColumn column
  let c ← Cell.ofValue v
  return (t.searched column).find? (t.selects [⟨column, c⟩])

def nextOrder (t : Relation) (column : String) : Int :=
  match t.rows.getLast? with
  | some r => orderOf column r + 1
  | none => 1

def rowOf (t : Relation) (given : List (String × Value)) : Except Fault Row := do
  if given.any fun (n, _) => (t.column? n).isNone then throw .unknownColumn
  t.columns.mapM fun c => do
    let cell ← Cell.ofValue ((field? c.name given).getD .none)
    let cell := cell.conform c.type
    return (c.name, if cell = .null && t.orderColumn? = some c.name then .int (t.nextOrder c.name)
      else cell)

def insert (t : Relation) (given : List (String × Value)) : Except Fault Relation := do
  let r ← t.rowOf given
  if t.isSound (t.rows ++ [r]) then return { t with rows := t.inOrder (t.rows ++ [r]) }
  else throw .brokenConstraint

def create (name : String) (columns : List Column) (rows : List (List (String × Value))) :
    Except Fault Relation :=
  rows.foldlM insert ⟨name, columns, []⟩

end Relation

end Lifecycle
