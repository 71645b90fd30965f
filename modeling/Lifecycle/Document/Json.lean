import Lifecycle.Collection
import Lifecycle.Document.Scan

namespace Lifecycle.Document.Json

def isBlank (c : Char) : Bool := c = ' ' || c = '\t' || c = '\n' || c = '\r'

def skipBlanks (cs : List Char) : List Char := cs.dropWhile isBlank

/-- A character of a string as written: itself, or by the number of a 16-bit unit. -/
inductive Piece where
  | char (c : Char)
  | unit (n : Nat)

/-- Two units that are the halves of one character become that character. -/
def joinPieces : List Piece → List Char
  | [] => []
  | .char c :: rest => c :: joinPieces rest
  | .unit high :: .unit low :: rest =>
    if 0xd800 ≤ high && high < 0xdc00 && 0xdc00 ≤ low && low < 0xe000 then
      Char.ofNat (0x10000 + (high - 0xd800) * 0x400 + (low - 0xdc00)) :: joinPieces rest
    else Char.ofNat high :: joinPieces (.unit low :: rest)
  | .unit n :: rest => Char.ofNat n :: joinPieces rest

def readPieces : List Char → Option (List Piece × List Char)
  | [] => none
  | '"' :: rest => some ([], rest)
  | '\\' :: 'u' :: a :: b :: c :: d :: rest =>
    if [a, b, c, d].all isHexDigit then
      (readPieces rest).map fun (ps, r) => (.unit (numeral 16 [a, b, c, d]) :: ps, r)
    else none
  | '\\' :: e :: rest =>
    match shortEscape? e with
    | some c => (readPieces rest).map fun (ps, r) => (.char c :: ps, r)
    | none => none
  | c :: rest =>
    if c = '\\' || c.toNat < 0x20 then none
    else (readPieces rest).map fun (ps, r) => (.char c :: ps, r)
where
  shortEscape? : Char → Option Char
    | '"' => some '"'
    | '\\' => some '\\'
    | '/' => some '/'
    | 'b' => some (Char.ofNat 8)
    | 'f' => some (Char.ofNat 12)
    | 'n' => some '\n'
    | 'r' => some '\r'
    | 't' => some '\t'
    | _ => none

def readText (cs : List Char) : Option (String × List Char) :=
  (readPieces cs).map fun (ps, rest) => (String.ofList (joinPieces ps), rest)

def digitsAfter? (cs : List Char) : Option (List Char × List Char) :=
  let ds := cs.takeWhile Char.isDigit
  if ds.isEmpty then none else some (ds, cs.dropWhile Char.isDigit)

def readFraction (cs : List Char) : List Char × List Char :=
  match cs with
  | '.' :: rest => (digitsAfter? rest).getD ([], cs)
  | _ => ([], cs)

def readExponent (cs : List Char) : Option Int × List Char :=
  match cs with
  | e :: rest =>
    if e = 'e' || e = 'E' then
      let (negative, rest) := signed rest
      match digitsAfter? rest with
      | some (ds, r) => (some (signedInt negative (numeral 10 ds)), r)
      | none => (none, cs)
    else (none, cs)
  | [] => (none, cs)

/-- A number without a leading zero; with a fraction or an exponent it is a binary one. -/
def readNumber (cs : List Char) : Except Flaw (Value × List Char) := do
  let (negative, rest) := match cs with
    | '-' :: r => (true, r)
    | _ => (false, cs)
  let (whole, rest) ← expected (match rest with
    | '0' :: r => some (['0'], r)
    | _ => digitsAfter? rest)
  let (fraction, rest) := readFraction rest
  let (exponent?, rest) := readExponent rest
  if fraction.isEmpty && exponent?.isNone then
    return (.int (← wholeNumber negative whole), rest)
  else
    let (digits, power) := decimalFraction whole fraction (exponent?.getD 0)
    return (.float (Binary64.ofDecimal negative digits power), rest)

def readWord (cs : List Char) : Option (Value × List Char) :=
  [("null", Value.none), ("true", .bool true), ("false", .bool false),
    ("NaN", .nan 0), ("Infinity", .float (.infinite false)),
    ("-Infinity", .float (.infinite true))].findSome? fun (word, v) => (after? word.toList cs).map fun rest => (v, rest)

mutual

/-- Reads one value, in which others may lie `room` deep. -/
def readValue (room : Nat) : Nat → List Char → Except Flaw (Value × List Char)
  | 0, _ => .error .malformed
  | fuel + 1, cs =>
    match cs with
    | '"' :: rest => (expected (readText rest)).map fun (s, r) => (.text s, r)
    | '[' :: rest =>
      match room, skipBlanks rest with
      | 0, _ => .error .tooDeep
      | _, ']' :: r => .ok (.list 0 [], r)
      | room + 1, r => (readElements room fuel r).map fun (xs, r) => (.list 0 xs, r)
    | '\x7b' :: rest =>
      match room, skipBlanks rest with
      | 0, _ => .error .tooDeep
      | _, '\x7d' :: r => .ok (.dict 0 [], r)
      | room + 1, r =>
        (readMembers room fuel r).map fun (items, r) => (.dict 0 (Table.ofList items), r)
    | _ =>
      match readWord cs with
      | some read => .ok read
      | none => readNumber cs

def readElements (room : Nat) : Nat → List Char → Except Flaw (List Value × List Char)
  | 0, _ => .error .malformed
  | fuel + 1, cs => do
    let (x, rest) ← readValue room fuel cs
    match skipBlanks rest with
    | ']' :: r => return ([x], r)
    | ',' :: r =>
      let (xs, r) ← readElements room fuel (skipBlanks r)
      return (x :: xs, r)
    | _ => throw .malformed

def readMembers (room : Nat) : Nat → List Char → Except Flaw (List (Value × Value) × List Char)
  | 0, _ => .error .malformed
  | fuel + 1, cs => do
    let '"' :: rest := cs | throw .malformed
    let (name, rest) ← expected (readText rest)
    let ':' :: rest := skipBlanks rest | throw .malformed
    let (x, rest) ← readValue room fuel (skipBlanks rest)
    match skipBlanks rest with
    | '\x7d' :: r => return ([(.text name, x)], r)
    | ',' :: r =>
      let (items, r) ← readMembers room fuel (skipBlanks r)
      return ((.text name, x) :: items, r)
    | _ => throw .malformed

end

def depthLimit : Nat := 980

/-- Reads a whole text as one value. No step of reading goes deeper than twice its length. -/
def read (s : String) : Except Flaw Value := do
  let (v, rest) ← readValue depthLimit (2 * s.length + 2) (skipBlanks s.toList)
  if (skipBlanks rest).isEmpty then return v else throw .malformed

end Lifecycle.Document.Json
