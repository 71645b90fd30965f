import Lifecycle.Value.Attribute
import Lifecycle.Value.FormatSpec

/-!
Templates with fields in curly brackets: a field names a value by place or by name, a way into it, a
conversion and a specification, which can hold fields of its own. Brackets written twice stand for one.
-/

namespace Lifecycle

namespace FormatFields

structure Source where
  values : Option (List Value)
  named : Option Value

/-- How fields without a name are numbered: by themselves or by hand, but not both. -/
inductive Numbering where
  | undecided
  | automatic (next : Nat)
  | manual
  deriving DecidableEq

structure Field where
  name : List Char
  conversion : Option Char
  spec : List Char
  nested : Bool

def invalid {α : Type} (text : String) : Except Fault α := .error (.badValue (.told text))

/-- The name of a field, the character that ends it, and what follows. Square brackets hide what stands
between them. -/
def scanName (hidden : Bool) : List Char → Except Fault (List Char × Char × List Char)
  | [] => invalid "expected '\x7d' before end of string"
  | c :: rest =>
    if hidden then (scanName (c ≠ ']') rest).map fun (n, e, r) => (c :: n, e, r)
    else if c = '{' then invalid "unexpected '\x7b' in field name"
    else if c = '}' || c = ':' || c = '!' then .ok ([], c, rest)
    else (scanName (c = '[') rest).map fun (n, e, r) => (c :: n, e, r)

def scanSpec (depth : Nat) : List Char → Except Fault (List Char × List Char)
  | [] => invalid "unmatched '\x7b' in format spec"
  | c :: rest =>
    if c = '}' then
      match depth with
      | 0 => .ok ([], rest)
      | depth + 1 => (scanSpec depth rest).map fun (s, r) => (c :: s, r)
    else (scanSpec (if c = '{' then depth + 1 else depth) rest).map fun (s, r) => (c :: s, r)

def withSpec (name : List Char) (conversion : Option Char) (cs : List Char) :
    Except Fault (Field × List Char) := do
  let (spec, rest) ← scanSpec 0 cs
  return (⟨name, conversion, spec, spec.contains '{'⟩, rest)

def scanField (cs : List Char) : Except Fault (Field × List Char) := do
  let (name, stop, rest) ← scanName false cs
  if stop = '}' then return (⟨name, none, [], false⟩, rest)
  else if stop = ':' then withSpec name none rest
  else match rest with
    | [] => invalid "end of string while looking for conversion specifier"
    | c :: '}' :: rest => return (⟨name, some c, [], false⟩, rest)
    | c :: ':' :: rest => withSpec name (some c) rest
    | [_] => invalid "unmatched '\x7b' in format spec"
    | _ => invalid "expected ':' after conversion specifier"

def index? (name : List Char) : Except Fault (Option Nat) := do
  let (n, rest) ← FormatSpec.readNumber name
  return if rest.isEmpty then n else none

def numbered (numbering : Numbering) (name : List Char) : Except Fault (Option Nat × Numbering) := do
  match name, ← index? name, numbering with
  | [], _, .manual =>
    invalid "cannot switch from manual field specification to automatic field numbering"
  | [], _, .automatic n => return (some n, .automatic (n + 1))
  | [], _, .undecided => return (some 0, .automatic 1)
  | _, some _, .automatic _ =>
    invalid "cannot switch from automatic field numbering to manual field specification"
  | _, some n, _ => return (some n, .manual)
  | _, none, _ => return (none, numbering)

def first (source : Source) (name : List Char) (number : Option Nat) : Except Fault Value :=
  match number, source.values, source.named with
  | some n, some values, _ =>
    match values[n]? with
    | some v => .ok v
    | none => .error (.noPlace ("Replacement index " ++ toString n ++
        " out of range for positional args tuple"))
  | some _, none, _ => invalid "Format string contains positional fields"
  | none, _, some named => named.item (.text (String.ofList name))
  | none, _, none => .error (.missingKey (.text (String.ofList name)))

def isStep (c : Char) : Bool := c = '.' || c = '['

/-- Follows the way into a value. The fuel is the length of the way. -/
def follow (v : Value) : Nat → List Char → Except Fault Value
  | 0, _ => .ok v
  | _ + 1, [] => .ok v
  | fuel + 1, c :: rest => do
    if c = '.' then
      let name := rest.takeWhile fun d => !isStep d
      if name.isEmpty then invalid "Empty attribute in format string"
      follow (← v.requireAttribute (String.ofList name)) fuel (rest.dropWhile fun d => !isStep d)
    else if c = '[' then
      let name := rest.takeWhile (· ≠ ']')
      match rest.dropWhile (· ≠ ']') with
      | [] => invalid "Missing ']' in format string"
      | _ :: after =>
        let key := match ← index? name with
          | some n => Value.int n
          | none => .text (String.ofList name)
        if name.isEmpty then invalid "Empty attribute in format string"
        follow (← v.item key) fuel after
    else invalid "Only '.' or '[' may follow ']' in format field specifier"

def convert (v : Value) : Option Char → Except Fault Value
  | none => .ok v
  | some 'r' => .ok (.text v.repr)
  | some 's' => .ok (.text v.display)
  | some 'a' => .ok (.text (Directive.asciiRepr v))
  | some c =>
    invalid ("Unknown conversion specifier " ++ FormatSpec.shown c)

/-- A template with its fields filled in, and how they were numbered. Fields in specifications lie one
level deeper, of which there are two. -/
def fill (source : Source) (depth : Nat) (fuel : Nat) (numbering : Numbering) (cs : List Char) :
    Except Fault (String × Numbering) :=
  match fuel with
  | 0 => .ok ("", numbering)
  | fuel + 1 => do
    let isBracket (c : Char) := c = '{' || c = '}'
    let literal := String.ofList (cs.takeWhile fun c => !isBracket c)
    match cs.dropWhile fun c => !isBracket c with
    | [] => return (literal, numbering)
    | [c] => invalid ("Single '" ++ String.singleton c ++ "' encountered in format string")
    | c :: d :: rest =>
      if c = d then
        let (after, numbering) ← fill source depth fuel numbering rest
        return (literal ++ String.singleton c ++ after, numbering)
      else if c = '}' then invalid "Single '\x7d' encountered in format string"
      else
        let (f, rest) ← scanField (d :: rest)
        let name := f.name.takeWhile fun c => !isStep c
        let (number, numbering) ← numbered numbering name
        let way := f.name.dropWhile fun c => !isStep c
        let v ← convert (← follow (← first source name number) way.length way) f.conversion
        let (spec, numbering) ←
          if !f.nested then pure (String.ofList f.spec, numbering)
          else match depth with
            | 0 => invalid "Max string recursion exceeded"
            | depth + 1 => fill source depth fuel numbering f.spec
        let written ← v.formatted spec
        let (after, numbering) ← fill source depth fuel numbering rest
        return (literal ++ written ++ after, numbering)

end FormatFields

def formatFields (template : String) (source : FormatFields.Source) : Except Fault String :=
  (FormatFields.fill source 1 (template.length + 1) .undecided template.toList).map (·.1)

end Lifecycle
