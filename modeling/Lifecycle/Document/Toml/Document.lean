import Lifecycle.Document.Toml.Nest
import Lifecycle.Document.Toml.Scalar
import Lifecycle.Document.Toml.Text

namespace Lifecycle.Document.Toml

def skipListBlanks : Nat → List Char → Option (List Char)
  | 0, cs => some cs
  | fuel + 1, cs => do
    let rest ← skipComment (cs.dropWhile isBlankOrNewline)
    if rest.length = cs.length then return rest else skipListBlanks fuel rest

mutual

/-- Reads one value. `room` bounds how deep others may lie in it: a list takes two steps of it, a
table on one line three. -/
def readValue (room : Nat) : Nat → List Char → Except Flaw (Value × List Char)
  | 0, _ => .error .malformed
  | fuel + 1, cs =>
    match cs with
    | '[' :: rest => do
      if room < 2 then throw .tooDeep
      match ← expected (skipListBlanks rest.length rest) with
      | ']' :: r => return (.list 0 [], r)
      | r =>
        let (xs, r) ← readElements (room - 2) fuel r
        return (.list 0 xs, r)
    | '\x7b' :: rest => do
      if room < 3 then throw .tooDeep
      match skipBlanks rest with
      | '\x7d' :: r => return (.dict 0 [], r)
      | r =>
        let (t, r) ← readInline (room - 3) fuel Marks.empty [] r
        return (t.value, r)
    | c :: _ =>
      if c = '"' || c = '\'' then
        (expected (readText cs)).map fun (s, r) => (.text (String.ofList s), r)
      else readScalar cs
    | [] => .error .malformed

def readElements (room : Nat) : Nat → List Char → Except Flaw (List Value × List Char)
  | 0, _ => .error .malformed
  | fuel + 1, cs => do
    let (x, rest) ← readValue room fuel cs
    match ← expected (skipListBlanks rest.length rest) with
    | ']' :: r => return ([x], r)
    | ',' :: r =>
      match ← expected (skipListBlanks r.length r) with
      | ']' :: r => return ([x], r)
      | r =>
        let (xs, r) ← readElements room fuel r
        return (x :: xs, r)
    | _ => throw .malformed

def readInline (room : Nat) : Nat → Marks → Table → List Char → Except Flaw (Table × List Char)
  | 0, _, _, _ => .error .malformed
  | fuel + 1, marks, t, cs => do
    let (key, v, rest) ← readEntry room fuel cs
    if marks.holds key .frozen then throw .malformed
    let (path, name) := splitKey key
    let t ← expected (changeAt false (addEntry name v) path t)
    match skipBlanks rest with
    | '\x7d' :: r => return (t, r)
    | ',' :: r =>
      let marks := if isNest v then marks.add ⟨key, .frozen, true⟩ else marks
      readInline room fuel marks t (skipBlanks r)
    | _ => throw .malformed

def readEntry (room : Nat) : Nat → List Char → Except Flaw (List String × Value × List Char)
  | 0, _ => .error .malformed
  | fuel + 1, cs => do
    let (key, rest) ← expected (readKey cs.length cs)
    let '=' :: rest := rest | throw .malformed
    let (v, rest) ← readValue room fuel (skipBlanks rest)
    return (key, v, rest)

end

def depthLimit : Nat := 980

/-- What has been read: the entries, the marks on them, and the table now open. -/
structure Progress where
  entries : Table
  marks : Marks
  header : List String

/-- The paths of the tables that a dotted key passes through, below the open table. -/
def passedThrough (header key : List String) : List (List String) :=
  (List.range (key.length - 1)).map fun i => header ++ key.take (i + 1)

def addLine (p : Progress) (key : List String) (v : Value) : Option Progress :=
  let passed := passedThrough p.header key
  let (inner, name) := splitKey key
  if passed.any fun path => p.marks.holds path .opened then none
  else if p.marks.holds (p.header ++ inner) .frozen then none
  else do
    let entries ← changeAt true (addEntry name v) (p.header ++ inner) p.entries
    let marks := passed.foldl (fun m path => m.postpone ⟨path, .opened, false⟩) p.marks
    let marks := if isNest v then marks.add ⟨p.header ++ key, .frozen, true⟩ else marks
    return { p with entries, marks }

def openTable (p : Progress) (cs : List Char) : Option (Progress × List Char) := do
  let marks := p.marks.settle
  let (key, rest) ← readKey cs.length (skipBlanks cs)
  if marks.holds key .opened || marks.holds key .frozen then none
  let entries ← changeAt true some key p.entries
  let ']' :: rest := rest | none
  return (⟨entries, marks.add ⟨key, .opened, false⟩, key⟩, rest)

def openElement (p : Progress) (cs : List Char) : Option (Progress × List Char) := do
  let marks := p.marks.settle
  let (key, rest) ← readKey cs.length (skipBlanks cs)
  if marks.holds key .frozen then none
  let (path, name) := splitKey key
  let entries ← changeAt true (addToList name) path p.entries
  let ']' :: ']' :: rest := rest | none
  return (⟨entries, (marks.release key).add ⟨key, .opened, false⟩, key⟩, rest)

def readStatement (p : Progress) (cs : List Char) : Except Flaw (Progress × List Char) :=
  match cs with
  | '[' :: '[' :: rest => expected (openElement p rest)
  | '[' :: rest => expected (openTable p rest)
  | c :: _ =>
    if c = '#' then .ok (p, cs)
    else do
      let (key, v, rest) ← readEntry depthLimit (2 * cs.length + 4) cs
      return (← expected (addLine p key v), rest)
  | [] => .ok (p, [])

def readLines : Nat → Progress → List Char → Except Flaw Progress
  | 0, _, _ => .error .malformed
  | fuel + 1, p, cs =>
    match skipBlanks cs with
    | [] => .ok p
    | '\n' :: rest => readLines fuel p rest
    | start => do
      let (p, rest) ← readStatement p start
      match ← expected (skipComment (skipBlanks rest)) with
      | [] => return p
      | '\n' :: rest => readLines fuel p rest
      | _ => throw .malformed

def unifyNewlines : List Char → List Char
  | '\r' :: '\n' :: rest => '\n' :: unifyNewlines rest
  | '\r' :: rest => '\n' :: unifyNewlines rest
  | c :: rest => c :: unifyNewlines rest
  | [] => []

def read (s : String) : Except Flaw Table := do
  let cs := unifyNewlines s.toList
  return (← readLines (cs.length + 1) ⟨[], Marks.empty, []⟩ cs).entries

end Lifecycle.Document.Toml
