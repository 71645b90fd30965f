import Lifecycle.Settings.Coercion
import Lifecycle.Tracker
import Lifecycle.Value.Declared

namespace Lifecycle

namespace FieldError

def keyStep (k : Value) : IssueStep :=
  match k.int? with
  | some n => if fitsWord n then .index n else .name k.display
  | none => .name k.display

def checkKey (e : Value × Value) : Checked (String × Value) :=
  (Checked.ofExcept [.name "keys", keyStep e.1, .name "[key]"] (Coercion.text e.1)).map
    fun n => (n, e.2)

/-- Names that are texts, and an issue for every one that is not. -/
def checkKeys (items : Table) : Checked (List (String × Value)) :=
  (Checked.all (items.map checkKey)).map fieldsOf

def checkText (name : String) (given : Option Value) : Checked String :=
  match given with
  | some v => Checked.ofExcept [.name name] (Coercion.text v)
  | none => Checked.failed [Issue.at name .missing]

/-- A field error from named parts; parts it does not know are passed over. -/
def make (given : List (String × Value)) : Except Fault FieldError :=
  let field := checkText "field" (field? "field" given)
  let template := checkText "template" (field? "template" given)
  let keys := match field? "keys" given with
    | none => Checked.ok []
    | some (.dict _ items) => checkKeys items
    | some _ => Checked.failed [Issue.at "keys" .notMapping]
  (((field.both template).both keys).map fun ((f, t), k) => FieldError.mk f t k).result

def keyTable (e : FieldError) : Table := e.keys.map fun (n, v) => (.text n, v)

def message (e : FieldError) : Act String := Act.render e.template e.keyTable

end FieldError

namespace Changeset

/-- The value a record has for a field; absent if it has none. -/
def originalOf (data field : Value) : Except Fault Value :=
  match data with
  | .dict _ items => return (← Table.lookup items field).getD .none
  | _ =>
    match field.text? with
    | some name => return (← data.lookup name).getD .none
    | none => throw (.misuse (.attributeName field.longTypeName))

def schemaOr (schema data : Value) : Value :=
  match schema with
  | .none => data.ownType
  | s => s

def new (data changes schema : Value) : Changeset := .mk 0 data changes (schemaOr schema data) []

def numbered (cs : Changeset) (id : Nat) : Changeset :=
  .mk id cs.data cs.changes cs.schema cs.errors

def upToDate (cs : Changeset) : Act Changeset := do
  match ← Act.current (.changeset (cs.numbered 0)) with
  | .changeset now => return .mk cs.id now.data now.changes now.schema cs.errors
  | _ => return cs

/-- Changes as given in a mapping, with named ones put over them. Anything false stands for none. -/
def pending (changes : Value) (named : List (String × Value)) : Except Fault Table := do
  let base ← match changes with
    | .dict _ items => pure items
    | v => if ← v.truthOf then throw (.misuse (.notMapping v.longTypeName)) else pure []
  return named.foldl (fun t (n, v) => Table.put t (.text n) v) base

def keepDiffering (data : Value) : Table → Except Fault Table
  | [] => .ok []
  | (name, value) :: rest => do
    let original ← originalOf data name
    let kept ← keepDiffering data rest
    return if value.equals original then kept else (name, value) :: kept

def change (data changes : Value) (named : List (String × Value)) (schema : Value) :
    Except Fault Changeset := do
  let p ← pending changes named
  return new data (.dict 0 (← keepDiffering data p)) schema

/-- A changeset of changes given by name, some of which name the arguments of the call itself. -/
def changeNamed (data : Value) (changes : Option Value) (named : List (String × Value)) :
    Except Fault Changeset := do
  let taken := ["cls", "data"] ++ if changes.isSome then ["changes"] else []
  needFreeNames "Changeset.change" taken named
  let changes := (changes <|> field? "changes" named).getD .none
  let schema := (field? "schema" named).getD .none
  change data changes (named.filter fun n => n.1 ≠ "changes" && n.1 ≠ "schema") schema

def isValid (cs : Changeset) : Bool := cs.errors.isEmpty

def hasChange (cs : Changeset) (field : Value) : Except Fault Bool := cs.changes.holdsOf field

def getOriginal (cs : Changeset) (field : Value) : Except Fault Value := originalOf cs.data field

def getField (cs : Changeset) (field : Value) : Except Fault Value := do
  if ← cs.hasChange field then cs.changes.itemOf field else cs.getOriginal field

def addError (cs : Changeset) (field message : Value) (keys : List (String × Value)) :
    Except Fault Changeset := do
  let e ← FieldError.make [("field", field), ("template", message),
    ("keys", .dict 0 (keys.map fun (n, v) => (.text n, v)))]
  return cs.withErrors (cs.errors ++ [e])

def addNamedError (cs : Changeset) (field message : Value) (named : List (String × Value)) :
    Except Fault Changeset := do
  needFreeNames "Changeset.add_error" ["self", "field", "message"] named
  cs.addError field message named

def assign (cs : Changeset) (field value : Value) : Except Fault Changeset := do
  return cs.withChanges (← cs.changes.withItem field value)

def addMessage (grouped : List (String × List String)) (field message : String) :
    List (String × List String) :=
  match field? field grouped with
  | some messages => putField grouped field (messages ++ [message])
  | none => grouped ++ [(field, [message])]

def errorsOn (cs : Changeset) : Act (List (String × List String)) :=
  cs.errors.foldlM (fun grouped e => return addMessage grouped e.field (← e.message)) []

/-- Draws a stream of changes up to a field; other changes stay as they are. -/
def draw (field : Value) : Check Changeset Unit := do
  let cs ← getThe Changeset
  match cs.changes with
  | .stream id xs =>
    let rest := (xs.dropWhile fun x => !x.same field).drop 1
    Act.note id (.stream id rest)
    set (cs.withChanges (.stream id rest))
  | _ => pure ()

instance : Tracker Changeset where
  self := return .changeset (← getThe Changeset)
  schema := return (← getThe Changeset).schema
  hasChange f := do
    let held ← Check.ofExcept ((← getThe Changeset).hasChange f)
    draw f
    return .bool held
  getField f := do
    let v := (← getThe Changeset).getField f
    draw f
    Check.ofExcept v
  getOriginal f := do Check.ofExcept ((← getThe Changeset).getOriginal f)
  addError f m keys := do
    let cs ← Check.ofExcept ((← getThe Changeset).addError f m keys)
    set cs

end Changeset

end Lifecycle
