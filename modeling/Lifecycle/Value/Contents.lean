import Lifecycle.Value.TypeOf

namespace Lifecycle

def rangeElements (start stop step : Int) : List Value :=
  (List.range (rangeLength start stop step)).map fun (i : Nat) => .int (start + step * i)

mutual

/-- The type of the first part that can change in place, which is what keeps a value from standing
in a set or as a key. -/
def Value.mutablePart? : Value → Option String
  | .list .. => some "list"
  | .set _ false _ => some "set"
  | .dict .. | .fieldError _ => some "dict"
  | .bundle _ => some "types.SimpleNamespace"
  | .changeset _ => some "Changeset"
  | .tuple xs => mutablePartOf? xs
  | .row columns => mutablePartOfColumns? columns
  | .strategy _ s => mutablePartOfStrategy? s
  | _ => none

def mutablePartOf? : List Value → Option String
  | [] => none
  | x :: xs => x.mutablePart? <|> mutablePartOf? xs

def mutablePartOfColumns? : List (String × Value) → Option String
  | [] => none
  | (_, x) :: xs => x.mutablePart? <|> mutablePartOfColumns? xs

def mutablePartOfStrategy? : Strategy → Option String
  | .recordMethod name => name.mutablePart?
  | .matcher m => m.mutablePart?
  | .predicate f => f.mutablePart?
  | .external target operation extra =>
    target.mutablePart? <|> operation.mutablePart? <|> extra.mutablePart?
  | .custom _ => none

end

namespace Value

def isHashable (v : Value) : Bool := v.mutablePart?.isNone

/-- A changeable set, looked up in a set, is looked up as its unchangeable copy. -/
def asElement : Value → Value
  | set _ false xs => set 0 true xs
  | v => v

def elements? : Value → Option (List Value)
  | list _ xs | tuple xs | set _ _ xs | stream _ xs => some xs
  | dict _ items => some (items.map (·.1))
  | range start stop step => some (rangeElements start stop step)
  | text s => some (s.toList.map fun c => text (String.singleton c))
  | bytes bs => some (bs.map fun b => int b.toNat)
  | member (.mk _ .textual _ _) _ (text s) | member (.mk _ .namedText _ _) _ (text s) =>
    some (s.toList.map fun c => text (String.singleton c))
  | enumeration e => some (e.members.map fun m => member e m.1 m.2)
  | row columns => some (columns.map (·.2))
  | matcher m => some m.pairs
  | _ => Option.none

def hasLength : Value → Bool
  | stream .. => false
  | v => v.elements?.isSome

/-- A text or byte string is one thing here, though it has elements. -/
def isTextual : Value → Bool
  | bytes _ => true
  | v => v.text?.isSome

/-- Whether the records of a class are true, which it can declare by a type that makes a false value. -/
def recordTruth (c : Owner) : Bool :=
  match field? "__bool__" c.attributes, field? "__len__" c.attributes with
  | some (.plain (.type t)), _ => t ≠ "bool"
  | Option.none, some (.plain (.type t)) => !(["int", "bool"].contains t)
  | _, _ => true

/-- Zero, the empty and the absent are false; all else is true. -/
def truth : Value → Bool
  | none => false
  | bool b => b
  | int n => n ≠ 0
  | float x => !x.isZero
  | text s => s ≠ ""
  | bytes bs => !bs.isEmpty
  | list _ xs | tuple xs | set _ _ xs => !xs.isEmpty
  | dict _ items => !items.isEmpty
  | range start stop step => rangeLength start stop step ≠ 0
  | member (.mk _ kind _ _) _ value =>
    match kind, value with
    | .plain, _ => true
    | _, int n => n ≠ 0
    | _, text s => s ≠ ""
    | _, _ => true
  | row columns => !columns.isEmpty
  | matcher m => !m.pairs.isEmpty
  | record _ c _ => recordTruth c
  | _ => true

end Value

end Lifecycle
