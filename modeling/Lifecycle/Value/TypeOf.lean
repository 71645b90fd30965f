import Lifecycle.Value.Key

namespace Lifecycle

/-- The type of a value: known by name alone, an enumeration, or a class of records. -/
inductive TypeName where
  | named (name : String)
  | enumeration (name : String) (kind : EnumKind)
  | owner (id : Nat) (name : String)
  deriving DecidableEq

namespace TypeName

def name : TypeName → String
  | named n => n
  | enumeration n _ => n
  | owner _ n => n

/-- Truth values are whole numbers, a date with a time is a date, members may be texts or numbers,
enumerations are types, and all are objects. -/
def within (t u : TypeName) : Bool :=
  t = u || u = named "object" ||
    match t with
    | named "bool" => u = named "int"
    | named "datetime" => u = named "date"
    | named "EnumType" => u = named "type"
    | enumeration _ .textual | enumeration _ .namedText => u = named "str"
    | enumeration _ .numeric => u = named "int"
    | _ => false

theorem within_refl (t : TypeName) : t.within t = true := by simp [within]

end TypeName

def Domain.kindName : Domain → String
  | flat _ => "FlatDomain"
  | dual .. => "DualDomain"

def Provider.kindName : Provider → String
  | enumeration _ => "EnumProvider"
  | mapping _ => "MappingProvider"
  | custom .. => "Provider"

def Strategy.kindName : Strategy → String
  | recordMethod _ => "RecordMethod"
  | matcher _ => "MatcherStrategy"
  | predicate _ => "Predicate"
  | external .. => "ExternalOperation"
  | custom _ => "Custom"

def Enumeration.typeName (e : Enumeration) : TypeName := .enumeration e.name e.kind

def Owner.typeName (c : Owner) : TypeName := .owner c.id c.name

namespace Value

def typeName : Value → TypeName
  | none => .named "NoneType"
  | bool _ => .named "bool"
  | int _ => .named "int"
  | float _ => .named "float"
  | text _ => .named "str"
  | bytes _ => .named "bytes"
  | list .. => .named "list"
  | tuple _ => .named "tuple"
  | set _ frozen _ => .named (if frozen then "frozenset" else "set")
  | dict .. => .named "dict"
  | range .. => .named "range"
  | stream .. => .named "generator"
  | moment m => .named m.typeName
  | member e _ _ => e.typeName
  | enumeration _ => .named "EnumType"
  | type _ => .named "type"
  | owner _ => .named "type"
  | record _ c _ => c.typeName
  | bundle _ => .named "SimpleNamespace"
  | row _ => .named "Row"
  | sealed _ t _ => .named t
  | hook _ => .named "Hook"
  | provider _ p => .named p.kindName
  | domain _ d => .named d.kindName
  | matcher _ => .named "TransitionMatcher"
  | strategy _ s => .named s.kindName
  | changeset _ => .named "Changeset"
  | fieldError _ => .named "FieldError"
  | method kind _ _ => .named kind

def ownType : Value → Value
  | member e _ _ => enumeration e
  | record _ c _ => owner c
  | v => type v.typeName.name

def asType? (v : Value) : Option TypeName :=
  match v with
  | enumeration e => some e.typeName
  | type n => some (.named n)
  | owner c => some c.typeName
  | _ => Option.none

/-- The type that a record gives itself out for. It can where its class declares one, and then a field
of that name counts first. -/
def claimedType? (v : Value) : Option TypeName :=
  match v with
  | record _ c fields =>
    match field? "__class__" c.attributes with
    | some (.plain declared) => ((field? "__class__" fields).getD declared).asType?
    | _ => Option.none
  | _ => Option.none

/-- Whether a value is of a type, or gives itself out for one of it. -/
def isInstance (v : Value) (t : TypeName) : Bool :=
  v.typeName.within t || v.claimedType?.any (·.within t)

theorem isInstance_typeName (v : Value) : v.isInstance v.typeName = true := by
  simp [isInstance, TypeName.within_refl]

def asTypeName? : Value → Option String
  | enumeration e => some e.name
  | type n => some n
  | owner c => some c.name
  | _ => Option.none

/-- What a message calls the value: its own name if it is a type, else the name of its type. -/
def label (v : Value) : String := v.asTypeName?.getD v.typeName.name

def longTypeName : Value → String
  | bundle _ => "types.SimpleNamespace"
  | moment m => "datetime." ++ m.typeName
  | v => v.typeName.name

def text? : Value → Option String
  | text s => some s
  | member (.mk _ .textual _ _) _ (text s) => some s
  | member (.mk _ .namedText _ _) _ (text s) => some s
  | _ => Option.none

/-- The whole number a value is: truth values count as 0 and 1. -/
def int? : Value → Option Int
  | bool b => some (if b then 1 else 0)
  | int n => some n
  | member (.mk _ .numeric _ _) _ (int n) => some n
  | _ => Option.none

def isWildcard (v : Value) : Bool := v.text? = some "*"

def isCallable : Value → Bool
  | enumeration _ | type _ | owner _ | hook _ | matcher _ | method .. => true
  | record _ c _ => (field? "__call__" c.attributes).isSome
  | _ => false

end Value

end Lifecycle
