import Lifecycle.World

namespace Lifecycle

namespace Owner

/-- Rules that a class declares under a name. -/
structure Declaration where
  name : String
  on : Value
  rules : Value

/-- Rules that are put on a finished class, under a name given or the one in the settings. -/
structure Decoration where
  name : Value
  on : Value
  rules : Value

def describeRules (owner name : Option String) (m : Matcher) : String :=
  "<Transition " ++ owner.getD "?" ++ "." ++ name.getD "None" ++ " (" ++ toString m.size ++
    " pairs)>"

def ruleSets (c : Owner) : List (String × Matcher) :=
  c.attributes.filterMap fun (n, a) =>
    match a with
    | .rules m => some (n, m)
    | .plain _ => none

def describe (c : Owner) : List String :=
  c.ruleSets.map fun (n, m) => describeRules (some c.name) (some n) m

/-- Installs a rule set; one already there under the name is replaced in its place. -/
def install (c : Owner) (name : String) (m : Matcher) : Owner :=
  .mk c.id c.name (putField c.attributes name (.rules m))

def decorationName (name : Value) : Act String := do
  if name.truth then
    match name.text? with
    | some n => return n
    | none => throw (.misuse (.attributeName name.longTypeName))
  else return (← Act.settings).validator.name

def decorate (c : Owner) (d : Decoration) : Act Owner := do
  let m ← Act.compile d.on d.rules
  let name ← decorationName d.name
  return c.install name m

/-- A class with plain attributes, then the rules it declares, then those put on it. A fault in any of
them leaves no class. -/
def declare (id : Nat) (name : String) (plain : List (String × Value))
    (declarations : List Declaration) (decorations : List Decoration) : Act Owner := do
  let rules ← declarations.mapM fun d => return (d.name, Attribute.rules (← Act.compile d.on d.rules))
  let body := fieldsOf (plain.map (fun (n, v) => (n, Attribute.plain v)) ++ rules)
  decorations.foldlM decorate (.mk id name body)

end Owner

end Lifecycle
