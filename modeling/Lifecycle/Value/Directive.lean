import Lifecycle.Number.Decimals
import Lifecycle.Value.Items

/-!
Templates whose percent signs ask for values: each is followed by what to write and how. A template is read
into pieces, and the pieces are then filled from left to right, so that of two faults the first is told.
-/

namespace Lifecycle

/-- A size in a directive: absent, written there, or taken from the arguments. -/
inductive Size where
  | absent
  | given (n : Nat)
  | argument
  deriving DecidableEq

structure Directive where
  name : Option String
  left : Bool
  plus : Bool
  space : Bool
  alternate : Bool
  zero : Bool
  width : Size
  precision : Size
  conversion : Char
  deriving DecidableEq

inductive Piece where
  | literal (c : Char)
  /-- A directive, with the place of its conversion in the template. -/
  | directive (d : Directive) (place : Nat)
  | unclosedName
  | unfinished (name : Option String)
  deriving DecidableEq

namespace Directive

def readName : Nat → List Char → Option (List Char × List Char)
  | _, [] => none
  | depth, c :: rest =>
    if c = ')' then
      match depth with
      | 0 => some ([], rest)
      | depth + 1 => (readName depth rest).map fun (n, r) => (c :: n, r)
    else (readName (if c = '(' then depth + 1 else depth) rest).map fun (n, r) => (c :: n, r)

def readSize (cs : List Char) : Size × List Char :=
  match cs with
  | '*' :: rest => (.argument, rest)
  | _ =>
    let ds := cs.takeWhile Char.isDigit
    (if ds.isEmpty then .absent else .given (Document.numeral 10 ds), cs.dropWhile Char.isDigit)

def isFlag (c : Char) : Bool := ['-', '+', ' ', '#', '0'].contains c

/-- The piece that a percent sign begins, and what follows it. `length` is that of the whole template. -/
def read (length : Nat) (cs : List Char) : Piece × List Char :=
  match cs with
  | '(' :: r =>
    match readName 0 r with
    | some (n, r) => readRest (some (String.ofList n)) r
    | none => (.unclosedName, [])
  | _ => readRest none cs
where
  readRest (name : Option String) (rest : List Char) : Piece × List Char :=
    let flags := rest.takeWhile isFlag
    let (width, rest) := readSize (rest.dropWhile isFlag)
    let (precision, rest) := match rest with
      | '.' :: r => match readSize r with
        | (.absent, r) => (.given 0, r)
        | read => read
      | _ => (Size.absent, rest)
    let rest := match rest with
      | c :: r => if ['h', 'l', 'L'].contains c then r else rest
      | [] => []
    match rest with
    | [] => (.unfinished name, [])
    | conversion :: after => (.directive {
        name, width, precision, conversion
        left := flags.contains '-'
        plus := flags.contains '+'
        space := flags.contains ' '
        alternate := flags.contains '#'
        zero := flags.contains '0' } (length - rest.length), after)

/-- The pieces of a template. Two percent signs next to each other are one that is meant. -/
def pieces (length : Nat) : Nat → List Char → List Piece
  | 0, _ => []
  | _ + 1, [] => []
  | fuel + 1, '%' :: '%' :: rest => .literal '%' :: pieces length fuel rest
  | fuel + 1, c :: rest =>
    if c = '%' then
      let (p, rest) := read length rest
      p :: pieces length fuel rest
    else .literal c :: pieces length fuel rest

def piecesOf (template : String) : List Piece :=
  pieces template.length (template.length + 1) template.toList

/-- Fills a text up to a width, after its sign and the mark of its base if zeros are to fill it. -/
def padded (d : Directive) (width : Nat) (left zeros : Bool) (head body : String) : String :=
  let fill := List.replicate (width - head.length - body.length)
  if left then head ++ body ++ String.ofList (fill ' ')
  else if zeros && d.zero then head ++ String.ofList (fill '0') ++ body
  else String.ofList (fill ' ') ++ head ++ body

def sign (d : Directive) (negative : Bool) : String :=
  if negative then "-" else if d.plus then "+" else if d.space then " " else ""

def baseDigits (conversion : Char) (n : Nat) : String × List Char :=
  match conversion with
  | 'x' => ("0x", Nat.toDigits 16 n)
  | 'X' => ("0X", (Nat.toDigits 16 n).map Char.toUpper)
  | 'o' => ("0o", Nat.toDigits 8 n)
  | _ => ("", Nat.toDigits 10 n)

/-- A value's form in messages, with what is not ASCII written by number. -/
def asciiRepr (v : Value) : String :=
  String.ofList (v.repr.toList.flatMap fun c => if c.toNat < 0x80 then [c] else Text.charCode c)

def real (missing : String) (v : Value) : Except Fault Binary64 :=
  match v, v.int? with
  | .float x, _ => .ok x
  | _, some n =>
    match Binary64.ofRatio (n < 0) n.natAbs 1 with
    | .infinite _ => .error (.overflow "int too large to convert to float")
    | x => .ok x
  | _, none => Value.told (missing ++ v.longTypeName)

def realText (conversion : Char) (alternate : Bool) (precision : Nat) : Binary64 → Bool × String
  | .infinite negative => (negative, "inf")
  | .finite negative m e =>
    (negative, match conversion.toLower with
      | 'e' => Decimals.scientific alternate m e precision
      | 'f' => Decimals.fixed alternate m e precision
      | _ => Decimals.general alternate m e precision)

def cut (precision : Option Nat) (s : String) : String :=
  match precision with
  | some n => String.ofList (s.toList.take n)
  | none => s

/-- The whole number that a conversion is about. Conversions to base ten take real numbers too. -/
def whole (conversion : Char) (v : Value) : Except Fault Int :=
  let call := "%" ++ String.singleton conversion ++ " format: "
  let decimal := ['d', 'i', 'u'].contains conversion
  match v, v.int? with
  | _, some n => .ok n
  | .float x, none =>
    if !decimal then Value.told (call ++ "an integer is required, not float")
    else match x.truncated? with
      | some n => .ok n
      | none => .error .infiniteNumber
  | _, none =>
    Value.told (call ++ (if decimal then "a real number" else "an integer") ++ " is required, not " ++
      v.longTypeName)

def character (ofBytes : Bool) (v : Value) : Except Fault String :=
  let limit := if ofBytes then 256 else 0x110000
  match (if ofBytes then v.bytesText? else v.text?), v.int? with
  | some s, _ => if s.length = 1 then .ok s else wrong
  | none, some n =>
    if 0 ≤ n && n < limit then .ok (String.singleton (Char.ofNat n.toNat))
    else .error (.overflow ("%c arg not in range(" ++ (if ofBytes then "256" else "0x110000") ++ ")"))
  | none, none => wrong
where
  wrong : Except Fault String :=
    Value.told (if ofBytes then "%c requires an integer in range(256) or a single byte"
      else "%c requires int or char")

/-- The plain text of a value, which among bytes is that of other bytes. -/
def plain (ofBytes : Bool) (v : Value) : Except Fault String :=
  if !ofBytes then .ok v.display
  else match v.bytesText? with
    | some s => .ok s
    | none =>
      Value.told ("%b requires a bytes-like object, or an object that implements __bytes__, not '" ++
        v.longTypeName ++ "'")

def unsupported (c : Char) (place : Nat) : Fault :=
  let shown := if 31 < c.toNat && c.toNat < 128 then c else '?'
  .badValue (.told ("unsupported format character '" ++ String.singleton shown ++ "' (0x" ++
    String.ofList (Nat.toDigits 16 c.toNat) ++ ") at index " ++ toString place))

def write (ofBytes : Bool) (d : Directive) (place : Nat) (width : Int) (precision : Option Nat)
    (v : Value) : Except Fault String := do
  let left := d.left || width < 0
  let text (s : String) := d.padded width.natAbs left false "" (cut precision s)
  let c := d.conversion
  if c = 's' || (ofBytes && c = 'b') then return text (← plain ofBytes v)
  else if c = 'a' || (ofBytes && c = 'r') then return text (asciiRepr v)
  else if c = 'r' then return text v.repr
  else if c = 'c' then return d.padded width.natAbs left false "" (← character ofBytes v)
  else if ['d', 'i', 'u', 'x', 'X', 'o'].contains c then
    let n ← whole c v
    let (mark, ds) := baseDigits c n.natAbs
    let ds := List.replicate (precision.getD 0 - ds.length) '0' ++ ds
    return d.padded width.natAbs left true (d.sign (n < 0) ++ (if d.alternate then mark else ""))
      (String.ofList ds)
  else if ['e', 'E', 'f', 'F', 'g', 'G'].contains c then
    let x ← real (if ofBytes then "float argument required, not " else "must be real number, not ") v
    let (negative, body) := realText c d.alternate (precision.getD 6) x
    return d.padded width.natAbs left true (d.sign negative)
      (if c.isUpper then String.ofList (body.toList.map Char.toUpper) else body)
  else throw (unsupported c place)

end Directive

/-- What directives take their values from: values in order, and one that supplies values by name. -/
structure Supply where
  values : List Value
  named : Option Value

def sizeLimit : Int := 100000000

namespace Supply

def next (s : Supply) : Except Fault (Value × Supply) :=
  match s.values with
  | v :: rest => .ok (v, { s with values := rest })
  | [] => Value.told "not enough arguments for format string"

def needNames (s : Supply) : Except Fault Value :=
  match s.named with
  | some v => .ok v
  | none => Value.told "format requires a mapping"

/-- A value called for by name is the only one left to be taken. -/
def choose (ofBytes : Bool) (s : Supply) : Option String → Except Fault Supply
  | none => .ok s
  | some name => do
    let key := if ofBytes then .bytes (name.toList.map fun c => UInt8.ofNat c.toNat) else .text name
    let v ← (← s.needNames).item key
    return { s with values := [v] }

def size (called : String) (s : Supply) : Size → Except Fault (Option Int × Supply)
  | .absent => .ok (none, s)
  | .given n =>
    if n ≤ sizeLimit then .ok (some n, s) else .error (.badValue (.told (called ++ " too big")))
  | .argument => do
    let (v, s) ← s.next
    match v.int? with
    | none => Value.told "* wants int"
    | some n =>
      if n.natAbs ≤ sizeLimit then return (some n, s) else throw (.numberTooLarge "C ssize_t")

/-- All values are used up. One that supplies values by name need not be. -/
def isSpent (s : Supply) : Bool := s.values.isEmpty || s.named.isSome

def ofValue (ofBytes : Bool) (v : Value) : Supply :=
  match v with
  | .tuple xs => ⟨xs, none⟩
  | .list .. | .dict .. | .range .. | .enumeration _ => ⟨[v], some v⟩
  | .bytes _ => ⟨[v], if ofBytes then none else some v⟩
  | _ => ⟨[v], none⟩

end Supply

def fill (ofBytes : Bool) : List Piece → Supply → Except Fault String
  | [], s =>
    if s.isSpent then .ok ""
    else Value.told ("not all arguments converted during " ++ (if ofBytes then "bytes" else "string") ++
      " formatting")
  | .literal c :: rest, s => (fill ofBytes rest s).map (String.singleton c ++ ·)
  | .unclosedName :: _, s => do
    let _ ← s.needNames
    throw (.badValue (.told "incomplete format key"))
  | .unfinished name :: _, s => do
    let _ ← s.choose ofBytes name
    throw (.badValue (.told "incomplete format"))
  | .directive d place :: rest, s => do
    let s ← s.choose ofBytes d.name
    let (width, s) ← s.size "width" d.width
    let (precision, s) ← s.size "precision" d.precision
    let (v, s) ← s.next
    let written ← d.write ofBytes place (width.getD 0) (precision.map Int.toNat) v
    return written ++ (← fill ofBytes rest s)

end Lifecycle
