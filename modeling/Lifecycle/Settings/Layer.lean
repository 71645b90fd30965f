import Lifecycle.Document.Json
import Lifecycle.Settings.Basic
import Lifecycle.Settings.Coercion
import Lifecycle.Text.Search

namespace Lifecycle

/-- The values one source supplies, by name; a table within stands for a section. -/
abbrev Layer := Table

mutual

/-- A layer with another laid over it. Where both have a table, the tables are laid over each other;
else the upper value counts. New names come last. -/
def Layer.overlay (base : Layer) : Table → Layer
  | [] => base
  | (k, v) :: upper => Layer.overlay (Table.put base k (overlaid (Table.lookup? base k) v)) upper

def overlaid (below : Option Value) : Value → Value
  | .dict _ upper =>
    match below with
    | some (.dict _ lower) => .dict 0 (Layer.overlay lower upper)
    | _ => .dict 0 upper
  | v => v

end

namespace Environment

/-- How variables are read: what their names begin with and whether its case counts, whether empty ones
count, what parts the names of nested values and how often, and the text that stands for nothing. -/
structure Reading where
  source : String := "EnvSettingsSource"
  /-- Absent where names can begin with no such thing. -/
  namePrefix : Option String := some "STATETRANSIT_"
  exact : Bool := false
  skipsEmpty : Bool := false
  delimiter : String := "__"
  /-- At most so many parts are split off, if there is such a limit. -/
  splitLimit : Except Fault (Option Nat) := .ok none
  noneText : Option String := none

namespace Reading

def spelled (r : Reading) (name : String) : String :=
  if r.exact then name else Coercion.lowered name

def nameOf (r : Reading) (setting : String) : String :=
  r.spelled (r.namePrefix.getD "" ++ setting)

def value (r : Reading) (written : String) : Value :=
  if r.noneText = some written then .none else .text written

def readAll (r : Reading) (vars : List (String × String)) : List (String × String) :=
  fieldsOf ((vars.filter fun (_, v) => !(r.skipsEmpty && v = "")).map fun (n, v) =>
    (r.spelled n, v))

end Reading

def leafNames : List String := ["name", "message", "required", "absent_token"]

/-- Sets the value of a leaf. Nothing does not take the place of something. -/
def setLeaf (t : Table) (k : String) (v : Value) : Table :=
  match v, Table.lookup? t (.text k) with
  | .none, some (.dict _ []) => Table.put t (.text k) v
  | .none, some _ => t
  | _, _ => Table.put t (.text k) v

def setNested (t : Table) (keys : List String) (v : Value) : Table :=
  match keys with
  | [] => t
  | [k] => setLeaf t k v
  | k :: rest =>
    match Table.lookup? t (.text k) with
    | none => Table.put t (.text k) (.dict 0 (setNested [] rest v))
    | some (.dict _ below) => Table.put t (.text k) (.dict 0 (setNested below rest v))
    | some _ => t

def afterPrefix? (start name : String) : Option String :=
  (Document.after? start.toList name.toList).map String.ofList

def nameParts (r : Reading) (name : String) : Except Fault (List String) := do
  let cs := name.toList
  let limit := (← r.splitLimit).getD (cs.length + 1)
  return (Search.splitMost r.delimiter.toList limit cs).map String.ofList

def nestedValues (r : Reading) (vars : List (String × String)) : Except Fault Table :=
  if r.delimiter = "" then .ok []
  else vars.foldlM (fun t (name, v) =>
    match afterPrefix? (r.nameOf "validator" ++ r.delimiter) name with
    | some rest => return setNested t (← nameParts r rest) (r.value v)
    | none => return t) []

/-- A leaf's own spelling, for a name that differs from it in case only. -/
def leafSpelling (name : String) : String :=
  (leafNames.find? fun leaf => leaf = Coercion.lowered name).getD name

def respell (r : Reading) (t : Table) : Value :=
  .dict 0 (if r.exact then t else t.foldl (fun out (k, v) =>
    match k with
    | .text name => Table.put out (.text (leafSpelling name)) v
    | _ => Table.put out k v) [])

/-- The section: a JSON text, with the values that have variables of their own laid over it. -/
def section? (r : Reading) (vars : List (String × String)) : Except Fault (Option Value) :=
  match field? (r.nameOf "validator") vars with
  | none => do
    let nested ← nestedValues r vars
    return if nested.isEmpty then none else some (respell r nested)
  | some written =>
    if r.noneText = some written then .ok (some .none)
    else match Document.Json.read written with
      | .error .tooDeep => .error .tooDeep
      | .error _ => .error (.unreadableText "validator" r.source)
      | .ok .none => .ok none
      | .ok (.dict _ items) => do
        return some (respell r (Layer.overlay items (← nestedValues r vars)))
      | .ok v => .ok (some v)

def plain? (r : Reading) (vars : List (String × String)) (name : String) : Option Value :=
  (field? (r.nameOf name) vars).map r.value

def layer (r : Reading) (all : List (String × String)) : Except Fault Layer := do
  if r.namePrefix.isNone then throw (.unreachableValue "config_path" r.source)
  let vars := r.readAll all
  let validator ← section? r vars
  let entries := [("config_path", plain? r vars "config_path"),
    ("verbose", plain? r vars "verbose"), ("log_json", plain? r vars "log_json"),
    ("validator", validator)]
  return entries.filterMap fun (name, v?) => v?.map fun v => (.text name, v)

end Environment

end Lifecycle
