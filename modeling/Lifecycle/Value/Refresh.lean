import Lifecycle.Value.Basic

namespace Lifecycle

/-- What the values that change in place came to, by number. -/
abbrev Latest := List (Nat × Value)

namespace Latest

def value? (l : Latest) (id : Nat) : Option Value := (List.find? (fun e => e.1 = id) l).map (·.2)

end Latest

mutual

/-- A value in which everything that changes in place is what it came to last. -/
def Value.refresh (l : Latest) : Value → Value
  | .list id xs => (l.value? id).getD (.list id (refreshAll l xs))
  | .tuple xs => .tuple (refreshAll l xs)
  | .dict id items => (l.value? id).getD (.dict id (refreshEntries l items))
  | .set id frozen xs => (l.value? id).getD (.set id frozen xs)
  | .stream id xs => (l.value? id).getD (.stream id xs)
  | .record id c fields => .record id (c.refresh l) (refreshFields l fields)
  | .owner c => .owner (c.refresh l)
  | .bundle fields => .bundle (refreshFields l fields)
  | .hook (.mk id name action) => .hook (.mk id name (action.refresh l))
  | .strategy id s => .strategy id (s.refresh l)
  | .changeset (.mk id data changes schema errors) =>
    (l.value? id).getD (.changeset (.mk id (data.refresh l) (changes.refresh l) (schema.refresh l)
      (refreshErrors l errors)))
  | v => v

def refreshAll (l : Latest) : List Value → List Value
  | [] => []
  | x :: xs => x.refresh l :: refreshAll l xs

def refreshEntries (l : Latest) : List (Value × Value) → List (Value × Value)
  | [] => []
  | (k, v) :: items => (k, v.refresh l) :: refreshEntries l items

def refreshFields (l : Latest) : List (String × Value) → List (String × Value)
  | [] => []
  | (n, v) :: fields => (n, v.refresh l) :: refreshFields l fields

def refreshAttributes (l : Latest) : List (String × Attribute) → List (String × Attribute)
  | [] => []
  | (n, .plain v) :: rest => (n, .plain (v.refresh l)) :: refreshAttributes l rest
  | (n, .rules m) :: rest => (n, .rules m) :: refreshAttributes l rest

def refreshErrors (l : Latest) : List FieldError → List FieldError
  | [] => []
  | .mk field template keys :: errors =>
    .mk field template (refreshFields l keys) :: refreshErrors l errors

def Owner.refresh (l : Latest) : Owner → Owner
  | .mk id name attributes => .mk id name (refreshAttributes l attributes)

def Action.refresh (l : Latest) : Action → Action
  | .const v => .const (v.refresh l)
  | .query target name => .query (target.refresh l) name
  | a => a

def Strategy.refresh (l : Latest) : Strategy → Strategy
  | .recordMethod name => .recordMethod name
  | .matcher m => .matcher (m.refresh l)
  | .predicate f => .predicate (f.refresh l)
  | .external target operation extra => .external (target.refresh l) operation (extra.refresh l)
  | .custom f => .custom (f.refresh l)

end

namespace Latest

def note (l : Latest) (id : Nat) (v : Value) : Latest :=
  (id, v) :: (l.filter fun e => e.1 ≠ id).map fun e => (e.1, refreshInside [(id, v)] e.2)
where
  /-- The value itself stays; what lies in it is brought up to date. -/
  refreshInside (l : Latest) : Value → Value
    | .list id xs => .list id (refreshAll l xs)
    | .dict id items => .dict id (refreshEntries l items)
    | .changeset (.mk id data changes schema errors) =>
      .changeset (.mk id (data.refresh l) (changes.refresh l) (schema.refresh l)
        (refreshErrors l errors))
    | .stream id xs => .stream id (refreshAll l xs)
    | v => v

end Latest

end Lifecycle
