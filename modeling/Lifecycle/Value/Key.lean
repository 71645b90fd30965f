import Lifecycle.Value.Basic

namespace Lifecycle

inductive Shape where
  | list | tuple | set | dict | entry | range | bundle | field
  | matcher | recordMethod | matcherStrategy | predicate | external
  | changeset | fieldError | method
  deriving DecidableEq, Hashable, Ord

inductive Label where
  | none
  | number (x : Exact)
  | infinity (negative : Bool)
  | text (s : String)
  | bytes (bs : List UInt8)
  | moment (kind : MomentKind) (place : Int)
  | member (enumeration name : String)
  | enumeration (name : String)
  | type (name : String)
  | identity (id : Nat)
  | shape (s : Shape)
  deriving DecidableEq, Hashable, Ord

mutual

/-- The normal form of a value under equality: equal values have the same key. -/
inductive Key where
  | node (label : Label) (parts : Keys)
  deriving DecidableEq, Hashable

inductive Keys where
  | nil
  | cons (k : Key) (rest : Keys)
  deriving DecidableEq, Hashable

end

mutual

def Key.order : Key → Key → Ordering
  | .node a as, .node b bs => (compare a b).then (as.order bs)

def Keys.order : Keys → Keys → Ordering
  | .nil, .nil => .eq
  | .nil, .cons _ _ => .lt
  | .cons _ _, .nil => .gt
  | .cons a as, .cons b bs => (a.order b).then (as.order bs)

end

namespace Keys

def ofList : List Key → Keys
  | [] => .nil
  | k :: ks => .cons k (ofList ks)

def insert (k : Key) : Keys → Keys
  | .nil => .cons k .nil
  | .cons a as => if (k.order a).isLE then .cons k (.cons a as) else .cons a (as.insert k)

/-- The same keys in ascending order, for what is equal in any order. -/
def sort : Keys → Keys
  | .nil => .nil
  | .cons a as => as.sort.insert a

end Keys

namespace Key

def leaf (l : Label) : Key := .node l .nil

def shape (s : Shape) (parts : Keys) : Key := .node (.shape s) parts

def pair (s : Shape) (a b : Key) : Key := shape s (.cons a (.cons b .nil))

def int (n : Int) : Key := leaf (.number (Exact.ofInt n))

def bool (b : Bool) : Key := int (if b then 1 else 0)

def float : Binary64 → Key
  | .finite negative m e => leaf (.number (Binary64.exact negative m e))
  | .infinite negative => leaf (.infinity negative)

end Key

def rangeLength (start stop step : Int) : Nat :=
  if 0 < step then ((stop - start + step - 1) / step).toNat
  else if step < 0 then ((start - stop - step - 1) / (-step)).toNat
  else 0

/-- Ranges are equal when they run through the same numbers. -/
def rangeKey (start stop step : Int) : Key :=
  match rangeLength start stop step with
  | 0 => Key.shape .range .nil
  | 1 => Key.shape .range (.cons (Key.int start) .nil)
  | n => Key.shape .range (.cons (Key.int start) (.cons (Key.int step) (.cons (Key.int n) .nil)))

mutual

def Value.key : Value → Key
  | .none => Key.leaf .none
  | .bool b => Key.bool b
  | .int n => Key.int n
  | .float x => Key.float x
  | .text s => Key.leaf (.text s)
  | .bytes bs => Key.leaf (.bytes bs)
  | .list _ xs => Key.shape .list (keysOf xs)
  | .tuple xs => Key.shape .tuple (keysOf xs)
  | .set _ _ xs => Key.shape .set (keysOf xs).sort
  | .dict _ items => Key.shape .dict (entryKeys items).sort
  | .range start stop step => rangeKey start stop step
  | .stream id _ => Key.leaf (.identity id)
  | .moment m => Key.leaf (.moment m.kind m.place)
  | .member (.mk e kind _ _) name value =>
    match kind with
    | .plain => Key.leaf (.member e name)
    | _ => value.key
  | .enumeration (.mk name ..) => Key.leaf (.enumeration name)
  | .type name => Key.leaf (.type name)
  | .owner (.mk id ..) => Key.leaf (.identity id)
  | .record id .. => Key.leaf (.identity id)
  | .bundle fields => Key.shape .bundle (fieldKeys fields).sort
  | .row columns => Key.shape .tuple (columnKeys columns)
  | .sealed id .. => Key.leaf (.identity id)
  | .hook (.mk id ..) => Key.leaf (.identity id)
  | .provider id _ => Key.leaf (.identity id)
  | .domain id _ => Key.leaf (.identity id)
  | .matcher (.mk pairs _) => Key.shape .matcher (keysOf pairs).sort
  | .strategy id s => strategyKey id s
  | .changeset (.mk _ data changes schema errors) =>
    Key.shape .changeset
      (.cons data.key (.cons changes.key (.cons schema.key (errorKeys errors))))
  | .fieldError e => e.key
  | .method _ owner name => Key.pair .method owner.key (Key.leaf (.text name))

def keysOf : List Value → Keys
  | [] => .nil
  | x :: xs => .cons x.key (keysOf xs)

def entryKeys : List (Value × Value) → Keys
  | [] => .nil
  | (k, v) :: items => .cons (Key.pair .entry k.key v.key) (entryKeys items)

def fieldKeys : List (String × Value) → Keys
  | [] => .nil
  | (n, v) :: fields => .cons (Key.pair .field (Key.leaf (.text n)) v.key) (fieldKeys fields)

def columnKeys : List (String × Value) → Keys
  | [] => .nil
  | (_, v) :: columns => .cons v.key (columnKeys columns)

def FieldError.key : FieldError → Key
  | .mk field template keys =>
    Key.shape .fieldError (.cons (Key.leaf (.text field)) (.cons (Key.leaf (.text template))
      (fieldKeys keys).sort))

def errorKeys : List FieldError → Keys
  | [] => .nil
  | e :: es => .cons e.key (errorKeys es)

/-- Strategies are equal by their parts, apart from a user's own. -/
def strategyKey (id : Nat) : Strategy → Key
  | .recordMethod name => Key.shape .recordMethod (.cons name.key .nil)
  | .matcher m => Key.shape .matcherStrategy (.cons m.key .nil)
  | .predicate f => Key.shape .predicate (.cons f.key .nil)
  | .external target operation extra =>
    Key.shape .external (.cons target.key (.cons operation.key (.cons extra.key .nil)))
  | .custom _ => Key.leaf (.identity id)

end

namespace Value

/-- Equality across types, as elements of collections are compared: numbers by value, textual members by
their text, sets in any order, and a thing is the same as itself whatever it is. -/
def same (a b : Value) : Bool := a.key = b.key

theorem same_iff {a b : Value} : a.same b = true ↔ a.key = b.key := by simp [same]

theorem same_refl (a : Value) : a.same a = true := by simp [same]

theorem same_comm (a b : Value) : a.same b = b.same a := by simp [same, eq_comm]

theorem same_trans {a b c : Value} (h : a.same b = true) (h' : b.same c = true) :
    a.same c = true := by
  rw [same_iff] at *
  exact h.trans h'

/-- A float that is no number. Each that is made is a thing of its own. -/
@[match_pattern]
def nan (id : Nat) : Value := sealed id "float" "nan"

def isNaN : Value → Bool
  | nan _ => true
  | _ => false

/-- Equality of two values as such. What is no number then differs from itself too. -/
def equals (a b : Value) : Bool := !a.isNaN && a.same b

theorem same_of_equals {a b : Value} (h : a.equals b = true) : a.same b = true :=
  (Bool.and_eq_true_iff.mp h).2

end Value

end Lifecycle
