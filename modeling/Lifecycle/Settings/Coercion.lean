import Lifecycle.Collection

namespace Lifecycle.Coercion

def lowerAscii (s : String) : String := s.map Char.toLower

/-- A name in small letters. Of the letters beyond ASCII only one, the kelvin sign, has a small one
within. -/
def lowered (s : String) : String := s.map fun c => if c = '\u212a' then 'k' else c.toLower

def truthWord? (s : String) : Option Bool :=
  let w := lowerAscii s
  if ["0", "off", "f", "false", "n", "no"].contains w then some false
  else if ["1", "on", "t", "true", "y", "yes"].contains w then some true
  else none

def utf8? (bs : List UInt8) : Option String :=
  String.fromUTF8? ⟨bs.toArray⟩

def truthOfInt (n : Int) : Except IssueKind Bool :=
  if n = 0 then .ok false
  else if n = 1 then .ok true
  else .error (if fitsWord n then .unreadableTruth else .notTruth)

def truthOfText (s : String) : Except IssueKind Bool :=
  match truthWord? s with
  | some b => .ok b
  | none => .error .unreadableTruth

def truth (v : Value) : Except IssueKind Bool :=
  match v with
  | .bool b => .ok b
  | .bytes bs =>
    match utf8? bs with
    | some s => truthOfText s
    | none => .error .unreadableTruth
  | .float x =>
    match x.toExact? with
    | some e =>
      if e.isWhole && e.num ≠ -(twoTo 63 : Int) then truthOfInt e.num else .error .notTruth
    | none => .error .notTruth
  | _ =>
    match v.text?, v.int? with
    | some s, _ => truthOfText s
    | none, some n => truthOfInt n
    | none, none => .error .notTruth

/-- Takes texts, bytes that spell one, and members of enumerations as the text of their value. -/
def text (v : Value) : Except IssueKind String :=
  match v with
  | .bytes bs =>
    match utf8? bs with
    | some s => .ok s
    | none => .error .undecodableText
  | .member _ _ value => .ok value.display
  | _ =>
    match v.text? with
    | some s => .ok s
    | none => .error .notText

end Lifecycle.Coercion

namespace Lifecycle

/-- A check of a record's fields that goes on after a failure, to report every one. -/
structure Checked (α : Type) where
  value? : Option α
  issues : List Issue

namespace Checked

def ok {α : Type} (x : α) : Checked α := ⟨some x, []⟩

def failed {α : Type} (issues : List Issue) : Checked α := ⟨none, issues⟩

def ofExcept {α : Type} (path : List IssueStep) : Except IssueKind α → Checked α
  | .ok x => ok x
  | .error kind => failed [⟨path, kind⟩]

def map {α β : Type} (f : α → β) (c : Checked α) : Checked β := ⟨c.value?.map f, c.issues⟩

def both {α β : Type} (a : Checked α) (b : Checked β) : Checked (α × β) where
  value? := match a.value?, b.value? with
    | some x, some y => some (x, y)
    | _, _ => none
  issues := a.issues ++ b.issues

def all {α : Type} : List (Checked α) → Checked (List α)
  | [] => ok []
  | c :: cs => (c.both (all cs)).map fun (x, xs) => x :: xs

def also {α : Type} (c : Checked α) (issues : List Issue) : Checked α :=
  if issues.isEmpty then c else ⟨none, c.issues ++ issues⟩

def result {α : Type} (c : Checked α) : Except Fault α :=
  match c.value? with
  | some x => if c.issues.isEmpty then .ok x else .error (.rejected c.issues)
  | none => .error (.rejected c.issues)

end Checked

end Lifecycle
