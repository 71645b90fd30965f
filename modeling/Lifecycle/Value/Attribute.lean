import Lifecycle.Enumeration
import Lifecycle.Value.PlainMethod
import Lifecycle.Value.Signature

namespace Lifecycle

/-- What a class declares under a name: a value, or a rule set as the matcher it is. -/
def Owner.attribute? (c : Owner) (name : String) : Option Value :=
  (field? name c.attributes).map fun
    | .plain v => v
    | .rules m => .matcher m

def domainKinds : Enumeration :=
  .mk "DomainKind" .textual [("FLAT", .text "flat"), ("DUAL", .text "dual")] []

def Domain.kindValue (d : Domain) : Value :=
  match d with
  | .flat _ => .member domainKinds "FLAT" (.text "flat")
  | .dual .. => .member domainKinds "DUAL" (.text "dual")

def Domain.part? (id : Nat) (d : Domain) (name : String) : Option Value :=
  match d, name with
  | d, "kind" => some d.kindValue
  | .flat states, "_states" => some (.tuple states)
  | .flat states, "_members" => some (.set 0 true states)
  | .dual p _, "provider" => some (.provider id p)
  | .dual _ alternates, "_alternates" => some (.dict 0 alternates)
  | .dual _ alternates, "_alternate_values" => some (.set 0 true (alternates.map (·.2)))
  | _, _ => none

def Provider.part? (p : Provider) (name : String) : Option Value :=
  match p, name with
  | .enumeration e, "enum_cls" => some (.enumeration e)
  | .mapping items, "_mapping" => some (.dict 0 items)
  | _, _ => none

def Strategy.part? (s : Strategy) (name : String) : Option Value :=
  match s, name with
  | .recordMethod n, "name" => some n
  | .matcher m, "matcher" => some m
  | .predicate f, "func" => some f
  | .external target _ _, "target" => some target
  | .external _ operation _, "operation" => some operation
  | .external _ _ extra, "extra_args" => some extra
  | _, _ => none

def Matcher.part? (m : Matcher) (name : String) : Option Value :=
  match name with
  | "pairs" => some (.set 0 true m.pairs)
  | "domain" => some ((m.domain.map (Value.domain 0)).getD .none)
  | _ => none

def Changeset.part? (cs : Changeset) (name : String) : Option Value :=
  match name with
  | "data" => some cs.data
  | "changes" => some cs.changes
  | "schema" => some cs.schema
  | "errors" => some (.list 0 (cs.errors.map .fieldError))
  | "valid" => some (.bool cs.errors.isEmpty)
  | _ => none

def FieldError.part? (e : FieldError) (name : String) : Option Value :=
  match name with
  | "field" => some (.text e.field)
  | "template" => some (.text e.template)
  | "keys" => some (.dict 0 (e.keys.map fun (n, v) => (.text n, v)))
  | _ => none

namespace Value

/-- A row gives up its columns by name, apart from the names of what every row has. -/
def columnOf? (columns : List (String × Value)) (name : String) : Option Value :=
  if ["t", "_t"].contains name then some (row columns)
  else if ["tuple", "_tuple", "_asdict"].contains name then some (method "method" (row columns) name)
  else if name = "_fields" then some (tuple (columns.map fun c => text c.1))
  else match field? name columns with
    | some v => some v
    | Option.none =>
      if ["count", "index"].contains name then some (method "function" (row columns) name)
      else Option.none

def numberPart? (v : Value) (name : String) : Option Value :=
  match v, v.int?, name with
  | float _, _, "real" => some v
  | float _, _, "imag" => some (float (Binary64.zero false))
  | _, some n, "real" => some (int n)
  | _, some n, "numerator" => some (int n)
  | _, some _, "imag" => some (int 0)
  | _, some _, "denominator" => some (int 1)
  | range start _ _, _, "start" => some (int start)
  | range _ stop _, _, "stop" => some (int stop)
  | range _ _ step, _, "step" => some (int step)
  | _, _, _ => Option.none

def memberPart? (e : Enumeration) (memberName : String) (value : Value) (name : String) : Option Value :=
  if ["name", "_name_"].contains name then some (text memberName)
  else if ["value", "_value_"].contains name then some value
  else e.member? name

def ownAttribute? (v : Value) (name : String) : Option Value :=
  match v with
  | record _ c fields =>
    match field? name fields with
    | some x => some x
    | Option.none => c.attribute? name
  | bundle fields => field? name fields
  | row columns => columnOf? columns name
  | owner c => c.attribute? name
  | member e n value => memberPart? e n value name
  | enumeration e => e.member? name
  | matcher m => m.part? name
  | strategy _ s => s.part? name
  | domain id d => d.part? id name
  | provider _ p => p.part? name
  | changeset cs => cs.part? name
  | fieldError e => e.part? name
  | _ => Option.none

def signatures (v : Value) : String × List Signature :=
  match v with
  | owner c | record _ c _ => (c.name, [⟨"__repr__", [], [], false⟩])
  | enumeration e | member e _ _ => ("Enum", Signature.ofMembers e.kind)
  | type t => (t, Signature.declared t)
  | hook _ => ("Hook", [⟨"__call__", [], [], false⟩])
  | v => (v.typeName.name, Signature.declared v.typeName.name)

/-- A method of a plain type that a value has, and whether it is still to be given the value it is called
on. Types have those of their values, and then those of types. -/
def plainMethod? (v : Value) (name : String) : Option (PlainMethod × Bool) :=
  match v.asType? with
  | Option.none => (Plain.inherited? v.typeName.lineage name).map fun m => (m, false)
  | some t =>
    match Plain.inherited? t.lineage name with
    | some m => some (m, !m.ofType)
    | Option.none =>
      if t.lineage.any fun l => Plain.lacks l name then Option.none
      else (Plain.inherited? ["type", "object"] name).map fun m => (m, false)

def declaredMethod? (v : Value) (name : String) : Option Value :=
  (Signature.find? v.signatures.2 name).map fun s =>
    method (if v.asType?.isSome && !s.ofType then "function" else "method") v name

def inheritedMethod? (v : Value) (name : String) : Option Value :=
  (v.plainMethod? name).map fun (m, unbound) =>
    method (if unbound then m.kindOnType name else m.kindOnValue name) v name

def typeMethod? (v : Value) (name : String) : Option Value :=
  match v with
  | enumeration _ => (Signature.find? Signature.ofEnumerations name).map fun _ => method "method" v name
  | _ => Option.none

def objectType : Value := type "object"

def ancestry (v : Value) : List Value :=
  match v with
  | type "object" => [v]
  | type "bool" => [v, type "int", objectType]
  | _ => [v, objectType]

def typePart? (v : Value) (t : TypeName) (name : String) : Option Value :=
  match name with
  | "__name__" | "__qualname__" => some (text t.name)
  | "__mro__" => some (tuple v.ancestry)
  | "__bases__" => some (tuple ((v.ancestry.drop 1).take 1))
  | "__base__" => some ((v.ancestry.drop 1).head?.getD none)
  | _ => Option.none

def ownerPart? (name : String) : Option Value :=
  match name with
  | "__doc__" | "__text_signature__" => some none
  | "__module__" => some (text "app")
  | "__dict__" => some (sealed 0 "mappingproxy" "mappingproxy")
  | "__weakref__" => some (sealed 0 "getset_descriptor" "__weakref__")
  | "__annotations__" => some (dict 0 [])
  | "__basicsize__" => some (int 24)
  | "__itemsize__" => some (int 0)
  | "__flags__" => some (int 22032)
  | "__dictoffset__" => some (int (-48))
  | "__weakrefoffset__" => some (int 16)
  | _ => Option.none

def recordPart? (fields : List (String × Value)) (name : String) : Option Value :=
  match name with
  | "__doc__" | "__weakref__" => some none
  | "__module__" => some (text "app")
  | "__dict__" => some (dict 0 (fields.map fun (n, x) => (text n, x)))
  | _ => Option.none

def commonPart? (v : Value) (name : String) : Option Value :=
  match v, v.asType? with
  | _, some t =>
    if name = "__class__" then some v.ownType
    else v.typePart? t name <|> (match v with
      | owner _ => ownerPart? name
      | _ => Option.none)
  | record _ _ fields, Option.none =>
    if name = "__class__" then some v.ownType else recordPart? fields name
  | _, Option.none => if name = "__class__" then some v.ownType else v.numberPart? name

def attribute? (v : Value) (name : String) : Option Value :=
  v.ownAttribute? name <|> v.declaredMethod? name <|> v.commonPart? name <|> v.inheritedMethod? name <|>
    v.typeMethod? name

def noAttribute (v : Value) (name : String) : Fault :=
  match v with
  | enumeration _ => .noMember name
  | row _ => .noColumn name
  | _ => .noAttribute (match v.asTypeName? with
    | some t => "type object '" ++ t ++ "'"
    | Option.none => "'" ++ v.longTypeName ++ "' object") name

def requireAttribute (v : Value) (name : String) : Except Fault Value :=
  match v.attribute? name with
  | some a => .ok a
  | Option.none => .error (v.noAttribute name)

end Value

end Lifecycle
