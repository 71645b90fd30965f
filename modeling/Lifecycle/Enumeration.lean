import Lifecycle.Value.Conversion

namespace Lifecycle

namespace Enumeration

/-- What a textual member is made from: texts as they are, or bytes with an encoding. -/
def needTexts : List Value → Except Fault Unit
  | [] => .ok ()
  | [v] => if v.text?.isSome then .ok () else .error (.misuse (.notAText v))
  | v :: encoding :: more =>
    if 2 < more.length + 1 then
      Value.told ("too many arguments for str(): " ++ (Value.tuple (v :: encoding :: more)).repr)
    else if encoding.text?.isNone then
      Value.told ("encoding must be a string, not " ++ encoding.repr)
    else match more with
      | handling :: _ =>
        if handling.text?.isNone then
          Value.told ("errors must be a string, not " ++ handling.repr)
        else .ok ()
      | [] => .ok ()

def arguments : Value → List Value
  | .tuple xs => xs
  | v => [v]

def memberValue (kind : EnumKind) (v : Value) : Except Fault Value :=
  match kind with
  | .plain => .ok v
  | .textual => do
    needTexts (arguments v)
    return .text (← Value.makeText (arguments v))
  | .namedText => return .text (← Value.makeText (arguments v))
  | .numeric => return .int (← Value.makeInt (arguments v))

def needDistinctNames (seen : List (String × Value)) : List (String × Value) → Except Fault Unit
  | [] => .ok ()
  | (n, v) :: rest =>
    match field? n seen with
    | some first => .error (.misuse (.memberRepeated n first))
    | none => needDistinctNames (seen ++ [(n, v)]) rest

/-- The member that has a value already. Among values that can be keys only such are looked at. -/
def holder? (members : List (String × Value)) (v : Value) : Option (String × Value) :=
  members.find? fun m => m.2.same v && (m.2.isHashable || !v.isHashable)

/-- Members and aliases as declared, one after the other: a name whose value equals an earlier member's
becomes an alias of it. -/
def collect (kind : EnumKind) (members : List (String × Value)) (aliases : List (String × String)) :
    List (String × Value) → Except Fault (List (String × Value) × List (String × String))
  | [] => .ok (members, aliases)
  | (n, declared) :: rest => do
    let v ← memberValue kind declared
    match holder? members v with
    | some m => collect kind members (aliases ++ [(n, m.1)]) rest
    | none => collect kind (members ++ [(n, v)]) aliases rest

def declare (name : String) (kind : EnumKind) (declared : List (String × Value)) :
    Except Fault Enumeration := do
  needDistinctNames [] declared
  let (members, aliases) ← collect kind [] [] declared
  return .mk name kind members aliases

def member? (e : Enumeration) (name : String) : Option Value :=
  let canonical := (field? name e.aliases).getD name
  (field? canonical e.members).map fun v => .member e canonical v

def memberOf (e : Enumeration) (v : Value) : Except Fault Value :=
  match v with
  | .member of .. =>
    if of.name = e.name then .ok v else byValue
  | _ => byValue
where
  byValue :=
    match holder? e.members v with
    | some (n, value) => .ok (.member e n value)
    | none => .error (.badValue (.notAMember v e.name))

/-- An enumeration called with a value and the names of a new one. Without names it finds the member of
a value; one that has members cannot be made into another. -/
def call (e : Enumeration) (args : List Value) : Except Fault Value :=
  match args with
  | [] => .error (.misuse (.missingArgument "EnumType.__call__" "value"))
  | [v] | [v, .none] => e.memberOf v
  | [v, names] =>
    if !e.members.isEmpty then .error (.misuse (.extendsEnumeration v e.name))
    else match v.text?, names.elements? with
      | some n, some _ => .ok (.enumeration (.mk n e.kind [] []))
      | some _, none => .error (.misuse (.notIterable names.longTypeName))
      | none, _ => Value.told ("type.__new__() argument 1 must be str, not " ++ v.longTypeName)
  | _ => .error (.misuse (.argumentCount "EnumType.__call__" 2 3 (args.length + 1)))

end Enumeration

end Lifecycle
