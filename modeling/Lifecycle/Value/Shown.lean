import Lifecycle.Value.Declared

/-!
What showing a value comes to. `Value.display` and `Value.repr` are the texts themselves; here is what can
go wrong before there is one: a class can declare how its records are shown, and a number can have too
many digits to be written out. How deep values lie in each other is not looked at.
-/

namespace Lifecycle

open Document (digitLimit)

def firstFault? (faults : List (Option Fault)) : Option Fault := faults.findSome? id

namespace Value

/-- What goes wrong when a class's declaration for a form of its records is called for the text. -/
def formFault? (form : String) (f : Value) : Option Fault :=
  match callBriefly f [] with
  | .error e => some e
  | .ok made =>
    if made.text?.isSome then Option.none
    else some (.misuse (.told (form ++ " returned non-string (type " ++ made.longTypeName ++ ")")))

def digitsFault? (n : Int) : Option Fault :=
  if n.natAbs < Nat.pow 10 digitLimit then Option.none
  else some (.badValue (.told ("Exceeds the limit (4300 digits) for integer string conversion; " ++
    "use sys.set_int_max_str_digits() to increase the limit")))

end Value

mutual

/-- What goes wrong before a value has its form inside messages. -/
def Value.reprFault? : Value → Option Fault
  | .int n => Value.digitsFault? n
  | .list _ xs => firstFault? (reprFaults xs)
  | .tuple xs => firstFault? (reprFaults xs)
  | .set _ _ xs => firstFault? (reprFaults xs)
  | .dict _ items => firstFault? (entryFaults items)
  | .range start stop step =>
    firstFault? [Value.digitsFault? start, Value.digitsFault? stop, Value.digitsFault? step]
  | .member _ _ value => value.reprFault?
  | .record _ c fields =>
    match c.attribute? "__repr__" with
    | some f => f.formFault? "__repr__"
    | none => firstFault? (fieldFaults fields)
  | .bundle fields => firstFault? (fieldFaults fields)
  | .row columns => firstFault? (fieldFaults columns)
  | .provider _ p => p.reprFault?
  | .domain _ d => d.reprFault?
  | .matcher (.mk pairs _) => firstFault? (reprFaults pairs)
  | .strategy _ s => s.reprFault?
  | .changeset (.mk _ data changes schema errors) => firstFault?
    [data.reprFault?, changes.reprFault?, schema.reprFault?, firstFault? (errorFaults errors)]
  | .fieldError e => e.reprFault?
  | .method kind owner _ => if kind = "method" then owner.reprFault? else none
  | _ => none

def reprFaults : List Value → List (Option Fault)
  | [] => []
  | x :: xs => x.reprFault? :: reprFaults xs

def entryFaults : List (Value × Value) → List (Option Fault)
  | [] => []
  | (k, v) :: items => k.reprFault? :: v.reprFault? :: entryFaults items

def fieldFaults : List (String × Value) → List (Option Fault)
  | [] => []
  | (_, v) :: fields => v.reprFault? :: fieldFaults fields

def FieldError.reprFault? : FieldError → Option Fault
  | .mk _ _ keys => firstFault? (fieldFaults keys)

def errorFaults : List FieldError → List (Option Fault)
  | [] => []
  | e :: es => e.reprFault? :: errorFaults es

def Provider.reprFault? : Provider → Option Fault
  | .mapping items => firstFault? (entryFaults items)
  | _ => none

def Domain.reprFault? : Domain → Option Fault
  | .flat states => firstFault? (reprFaults states)
  | .dual provider _ => provider.reprFault?

def Strategy.reprFault? : Strategy → Option Fault
  | .recordMethod name => name.reprFault?
  | .matcher m => m.reprFault?
  | .predicate f => f.reprFault?
  | .external target operation extra =>
    firstFault? [target.reprFault?, operation.reprFault?, extra.reprFault?]
  | .custom _ => none

end

namespace Value

/-- What goes wrong before a value has its plain form. A record is asked for the form inside messages where
its class declares none for this, and still it is this one that is told of. -/
def textFault? (v : Value) : Option Fault :=
  match v with
  | text _ => Option.none
  | member (.mk _ .numeric ..) _ (int n) => digitsFault? n
  | member .. => Option.none
  | record _ c _ =>
    match c.attribute? "__str__" <|> c.attribute? "__repr__" with
    | some f => f.formFault? "__str__"
    | Option.none => v.reprFault?
  | v => v.reprFault?

/-- The plain form of a value, where it has one. -/
def shown (v : Value) : Except Fault String :=
  match v.textFault? with
  | some f => .error f
  | Option.none => .ok v.display

end Value

end Lifecycle
