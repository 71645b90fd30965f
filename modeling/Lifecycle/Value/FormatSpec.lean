import Lifecycle.Value.Directive

/-!
Specifications of how a value is written: what fills it up to a width and on which side, its sign, the mark
of its base, what groups its digits, its precision and the kind of presentation.
-/

namespace Lifecycle

structure FormatSpec where
  fill : Char := ' '
  align : Char
  sign : Option Char := none
  zeroPlain : Bool := false
  alternate : Bool := false
  width : Nat := 0
  grouping : Option Char := none
  precision : Option Nat := none
  kind : Option Char
  deriving DecidableEq

namespace FormatSpec

def invalid {α : Type} (text : String) : Except Fault α := .error (.badValue (.told text))

def isAlign (c : Char) : Bool := ['<', '>', '=', '^'].contains c

/-- A character as a message shows it: by its number if it is not printable. -/
def shown (c : Char) : String :=
  if 32 < c.toNat && c.toNat < 128 then String.singleton c
  else "\\x" ++ String.ofList (Nat.toDigits 16 c.toNat)

def readNumber (cs : List Char) : Except Fault (Option Nat × List Char) :=
  let isDigit (c : Char) := (Text.plainDigit c).isDigit
  let ds := (cs.takeWhile isDigit).map Text.plainDigit
  let n := Document.numeral 10 ds
  if !fitsWord n then invalid "Too many decimal digits in format string"
  else .ok (if ds.isEmpty then none else some n, cs.dropWhile isDigit)

def eat (c : Char) (cs : List Char) : Bool × List Char :=
  match cs with
  | d :: rest => if d = c then (true, rest) else (false, cs)
  | [] => (false, [])

def readGrouping (cs : List Char) : Except Fault (Option Char × List Char) :=
  let (comma, cs) := eat ',' cs
  let (underscore, cs) := eat '_' cs
  if comma && underscore || underscore && cs.head? = some ',' then
    invalid "Cannot specify both ',' and '_'."
  else .ok (if comma then some ',' else if underscore then some '_' else none, cs)

def readAlign (cs : List Char) : Option Char × Option Char × List Char :=
  match cs with
  | f :: a :: rest =>
    if isAlign a then (some f, some a, rest)
    else if isAlign f then (none, some f, a :: rest) else (none, none, cs)
  | [a] => if isAlign a then (none, some a, []) else (none, none, cs)
  | [] => (none, none, [])

def needGrouping (grouping : Option Char) (kind : Option Char) : Except Fault Unit :=
  match grouping, kind with
  | none, _ | _, none => .ok ()
  | some g, some k =>
    if ['d', 'e', 'f', 'g', 'E', 'G', '%', 'F'].contains k then .ok ()
    else if g = '_' && ['b', 'o', 'x', 'X'].contains k then .ok ()
    else invalid ("Cannot specify '" ++ String.singleton g ++ "' with '" ++ shown k ++ "'.")

def read (type : String) (defaultAlign : Char) (defaultKind : Option Char) (s : String) :
    Except Fault FormatSpec := do
  let (fill, align, cs) := readAlign s.toList
  let (sign, cs) := match cs with
    | c :: rest => if [' ', '+', '-'].contains c then (some c, rest) else (none, cs)
    | [] => (none, [])
  let (zeroPlain, cs) := eat 'z' cs
  let (alternate, cs) := eat '#' cs
  let (zeros, cs) := if fill.isNone then eat '0' cs else (false, cs)
  let (width, cs) ← readNumber cs
  let (grouping, cs) ← readGrouping cs
  let (point, cs) := eat '.' cs
  let (precision, cs) ← if point then readNumber cs else pure (none, cs)
  if point && precision.isNone then invalid "Format specifier missing precision"
  if 1 < cs.length then
    invalid ("Invalid format specifier '" ++ s ++ "' for object of type '" ++ type ++ "'")
  let kind := cs.head? <|> defaultKind
  needGrouping grouping kind
  return {
    fill := fill.getD (if zeros then '0' else ' ')
    align := align.getD (if zeros && defaultAlign = '>' then '=' else defaultAlign)
    sign, zeroPlain, alternate, grouping, precision, kind
    width := width.getD 0 }

/-- Fills a text up to the width. The head is a sign and a mark, which an alignment can keep in front. -/
def padded (spec : FormatSpec) (head body : String) : String :=
  let missing := spec.width - head.length - body.length
  let fill (n : Nat) := String.ofList (List.replicate n spec.fill)
  match spec.align with
  | '<' => head ++ body ++ fill missing
  | '^' => fill (missing / 2) ++ head ++ body ++ fill (missing - missing / 2)
  | '=' => head ++ fill missing ++ body
  | _ => fill missing ++ head ++ body

def unknownKind {α : Type} (kind : Option Char) (type : String) : Except Fault α :=
  invalid ("Unknown format code '" ++ shown (kind.getD ' ') ++ "' for object of type '" ++ type ++ "'")

def text (spec : FormatSpec) (type s : String) : Except Fault String := do
  if spec.kind ≠ some 's' then unknownKind spec.kind type
  let place := " not allowed in string format specifier"
  if spec.sign = some ' ' then invalid ("Space" ++ place)
  if spec.sign.isSome then invalid ("Sign" ++ place)
  if spec.zeroPlain then invalid ("Negative zero coercion (z)" ++ place)
  if spec.alternate then invalid ("Alternate form (#)" ++ place)
  if spec.align = '=' then invalid ("'=' alignment" ++ place)
  return spec.padded "" (Directive.cut spec.precision s)

/-- Digits in groups, from the last on, with zeros before them up to a width. The fuel is the number of
groups at most. -/
def grouped (separator : Char) (size : Nat) : Nat → List Char → Nat → List Char
  | 0, reversed, _ => reversed
  | fuel + 1, reversed, width =>
    let here := min size (max (max reversed.length width) 1)
    let digits := reversed.take here
    let group := digits ++ List.replicate (here - digits.length) '0'
    let rest := reversed.drop here
    if rest.isEmpty && width ≤ here then group
    else group ++ separator :: grouped separator size fuel rest (width - here - 1)

def signText (spec : FormatSpec) (negative : Bool) : String :=
  if negative then "-"
  else match spec.sign with
    | some '+' => "+"
    | some ' ' => " "
    | _ => ""

def number (spec : FormatSpec) (negative : Bool) (mark : String) (digits : List Char) (rest : String) :
    String :=
  let head := spec.signText negative ++ mark
  match spec.grouping with
  | none => spec.padded head (String.ofList digits ++ rest)
  | some separator =>
    let size := if (spec.kind.map (['b', 'o', 'x', 'X'].contains ·)).getD false then 4 else 3
    let width := if spec.fill = '0' && spec.align = '=' then spec.width - head.length - rest.length
      else 0
    let ds := grouped separator size (digits.length + width + 1) digits.reverse width
    spec.padded head (String.ofList ds.reverse ++ rest)

def parts (s : String) : List Char × String :=
  (s.toList.takeWhile Char.isDigit, String.ofList (s.toList.dropWhile Char.isDigit))

/-- A real number without a kind of presentation: the shortest text, or so many significant digits with
at least one after the point. -/
def plainReal (spec : FormatSpec) (m : Nat) (e : Int) : String :=
  match spec.precision with
  | none =>
    let s := (Binary64.finite false m e).toText
    if spec.alternate && !s.contains '.' then s.replace "e" ".e" else s
  | some p =>
    let count := max p 1
    let (ds, power) := Decimals.significant m e count
    if -4 ≤ power ∧ power < (count : Int) - 1 then
      let s := Decimals.general spec.alternate m e count
      if s.contains '.' then s else s ++ ".0"
    else
      let s := Decimals.withPoint spec.alternate ds (count - 1)
      (if spec.alternate then s else Decimals.withoutTrailingZeros s) ++ Decimals.exponentText power

def realBody (spec : FormatSpec) (m : Nat) (e : Int) : String :=
  let p := spec.precision.getD 6
  match spec.kind with
  | some 'e' | some 'E' => Decimals.scientific spec.alternate m e p
  | some 'f' | some 'F' | some '%' => Decimals.fixed spec.alternate m e p
  | some _ => Decimals.general spec.alternate m e p
  | none => plainReal spec m e

def percent (x : Binary64) : Binary64 :=
  match x with
  | .finite negative m e =>
    Binary64.ofRatio negative (m * twoTo e.toNat * 100) (twoTo (-e).toNat)
  | .infinite _ => x

def real (spec : FormatSpec) (type : String) (x : Binary64) : Except Fault String := do
  let kinds := ['e', 'E', 'f', 'F', 'g', 'G', 'n', '%']
  if (spec.kind.map fun k => !kinds.contains k).getD false then unknownKind spec.kind type
  let upper (s : String) := if (spec.kind.map Char.isUpper).getD false then
    String.ofList (s.toList.map Char.toUpper) else s
  let mark := if spec.kind = some '%' then "%" else ""
  match if spec.kind = some '%' then percent x else x with
  | .infinite negative =>
    return { spec with grouping := none }.number negative "" [] (upper "inf" ++ mark)
  | .finite negative m e =>
    let body := realBody spec m e
    let vanishes := body.toList.all fun c => !c.isDigit || c = '0'
    let (digits, rest) := parts (upper body)
    return spec.number (negative && !(spec.zeroPlain && vanishes)) "" digits (rest ++ mark)

def wholeDigits (kind : Char) (n : Nat) : String × List Char :=
  if kind = 'b' then ("0b", Nat.toDigits 2 n) else Directive.baseDigits kind n

def whole (spec : FormatSpec) (type : String) (n : Int) : Except Fault String := do
  let kind := spec.kind.getD 'd'
  if ['e', 'E', 'f', 'F', 'g', 'G', '%'].contains kind then
    return ← spec.real type (← Directive.real "" (.int n))
  if !(['b', 'c', 'd', 'o', 'x', 'X', 'n'].contains kind) then unknownKind kind type
  let place := " not allowed in integer format specifier"
  if spec.precision.isSome then invalid ("Precision" ++ place)
  if spec.zeroPlain then invalid ("Negative zero coercion (z)" ++ place)
  if kind = 'c' then
    let place := " not allowed with integer format specifier 'c'"
    if spec.sign.isSome then invalid ("Sign" ++ place)
    if spec.alternate then invalid ("Alternate form (#)" ++ place)
    if !fitsWord n then throw (.numberTooLarge "C long")
    return { spec with grouping := none }.padded "" (← Directive.character false (.int n))
  let (mark, digits) := wholeDigits kind n.natAbs
  return spec.number (n < 0) (if spec.alternate then mark else "") digits ""

end FormatSpec

namespace Value

def formatted (v : Value) (spec : String) : Except Fault String := do
  let type := v.longTypeName
  let asText (type : String) : Except Fault String := do
    (← FormatSpec.read type '<' (some 's') spec).text type v.display
  if spec = "" then return v.display
  match v, v.int? with
  | member (.mk _ .plain _ _) _ _, _ | member (.mk _ .namedText _ _) _ _, _ => asText "str"
  | member (.mk _ .textual _ _) _ _, _ | text _, _ => asText type
  | float x, _ => (← FormatSpec.read type '>' Option.none spec).real type x
  | _, some n => (← FormatSpec.read type '>' (some 'd') spec).whole type n
  | _, Option.none => told ("unsupported format string passed to " ++ type ++ ".__format__")

end Value

end Lifecycle
