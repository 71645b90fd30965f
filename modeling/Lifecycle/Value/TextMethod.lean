import Lifecycle.Text.Layout
import Lifecycle.Text.Lines
import Lifecycle.Value.Argument
import Lifecycle.Value.FormatFields

/-!
The methods of texts and of byte strings. Bytes are looked at as characters with the same numbers, so that
most methods are the same for both.
-/

namespace Lifecycle

inductive Script where
  | text
  | bytes
  deriving DecidableEq

namespace Script

def value (s : Script) (cs : List Char) : Value :=
  match s with
  | text => .text (String.ofList cs)
  | bytes => .bytes (cs.map fun c => UInt8.ofNat c.toNat)

def part? (s : Script) (v : Value) : Option (List Char) :=
  match s with
  | text => v.text?.map String.toList
  | bytes => v.bytesText?.map String.toList

def isBlank (s : Script) (c : Char) : Bool :=
  match s with
  | text => Text.isBlank c || ('\x1c' ≤ c && c ≤ '\x1f')
  | bytes => c = ' ' || ('\t' ≤ c && c ≤ '\r')

def isLineEnd (s : Script) (c : Char) : Bool :=
  match s with
  | text => Text.isLineEnd c
  | bytes => c = '\n' || c = '\r'

/-- A part of the same kind, or else a fault in these words, apart from those common to bytes. -/
def partOr (s : Script) (v : Value) (complaint : String) : Except Fault (List Char) :=
  match s.part? v, s with
  | some cs, _ => .ok cs
  | none, text => Value.told complaint
  | none, bytes => v.notBytes

def part (s : Script) (v : Value) : Except Fault (List Char) :=
  s.partOr v ("must be str, not " ++ v.longTypeName)

def partNamed (s : Script) (callee place : String) (v : Value) : Except Fault (List Char) :=
  s.partOr v (callee ++ "() argument" ++ place ++ " must be str, not " ++ v.argumentType)

/-- What is searched for: among bytes also a single one by its number. -/
def searched (s : Script) (v : Value) : Except Fault (List Char) :=
  match s, s.part? v, v.int? with
  | _, some cs, _ => .ok cs
  | text, none, _ => s.part v
  | bytes, none, some n =>
    if 0 ≤ n && n < 256 then .ok [Char.ofNat n.toNat] else .error (.badValue .byteRange)
  | bytes, none, none =>
    Value.told ("argument should be integer or bytes-like object, not '" ++ v.longTypeName ++ "'")

def search (s : Script) (cs : List Char) (name : String) (v : Value) (bounds : List Value) :
    Except Fault Value := do
  let slice ← Slice.ofArguments cs.length "or None " bounds
  let part ← s.searched v
  let found? (at? : List Char → List Char → Option Nat) : Option Nat :=
    ((slice.cut? cs).bind (at? part)).map (· + slice.start)
  let place := if name = "rfind" || name = "rindex" then found? Search.lastAt?
    else found? Search.firstAt?
  match place with
  | some n => return .int n
  | none =>
    if name = "find" || name = "rfind" then return .int (-1)
    else Value.badValue (if s = text then "substring not found" else "subsection not found")

def count (s : Script) (cs : List Char) (v : Value) (bounds : List Value) : Except Fault Value := do
  let slice ← Slice.ofArguments cs.length "or None " bounds
  let part ← s.searched v
  return .int (((slice.cut? cs).map (Search.occurrences part)).getD 0)

def touches (s : Script) (cs : List Char) (name : String) (v : Value) (bounds : List Value) :
    Except Fault Value := do
  let slice ← Slice.ofArguments cs.length "or None " bounds
  let touched (part : List Char) : Bool :=
    match slice.cut? cs with
    | some cut => if name = "startswith" then part.isPrefixOf cut else part.isSuffixOf cut
    | none => false
  match v, s.part? v with
  | .tuple parts, _ => return .bool (← anyOf touched parts)
  | _, some part => return .bool (touched part)
  | _, none =>
    let kind := if s = text then "str" else "bytes"
    Value.told (name ++ " first arg must be " ++ kind ++ " or a tuple of " ++ kind ++ ", not " ++
      v.longTypeName)
where
  anyOf (touched : List Char → Bool) : List Value → Except Fault Bool
    | [] => .ok false
    | v :: rest => do
      let part ← s.partOr v ("tuple for " ++ name ++ " must only contain str, not " ++ v.longTypeName)
      if touched part then return true else anyOf touched rest

def needSeparator (part : List Char) : Except Fault Unit :=
  if part.isEmpty then Value.badValue "empty separator" else .ok ()

def split (s : Script) (cs : List Char) (name : String) (args : List Value) : Except Fault Value := do
  let limit ← match args with
    | _ :: limit :: _ => limit.size
    | _ => pure (-1)
  let limit := if limit < 0 then cs.length + 1 else limit.toNat
  let fromEnd := name = "rsplit"
  match args with
  | [] | .none :: _ =>
    let words := if fromEnd then Text.wordsLast s.isBlank limit cs else Text.words s.isBlank limit cs
    return .list 0 (words.map s.value)
  | v :: _ =>
    let part ← s.partOr v ("must be str or None, not " ++ v.longTypeName)
    needSeparator part
    let pieces := if fromEnd then Search.splitMostLast part limit cs else Search.splitMost part limit cs
    return .list 0 (pieces.map s.value)

def join (s : Script) (cs : List Char) (v : Value) : Except Fault Value := do
  match v.elements? with
  | none => Value.told "can only join an iterable"
  | some xs =>
    let expected := if s = text then "str instance" else "a bytes-like object"
    let pieces ← xs.zipIdx.mapM fun (x, i) =>
      match s.part? x with
      | some piece => Except.ok piece
      | none => Value.told ("sequence item " ++ toString i ++ ": expected " ++ expected ++ ", " ++
          x.longTypeName ++ " found")
    return s.value (Search.joined cs pieces)

def partition (s : Script) (cs : List Char) (name : String) (v : Value) : Except Fault Value := do
  let part ← s.part v
  needSeparator part
  let three (a b c : List Char) : Value := .tuple [s.value a, s.value b, s.value c]
  if name = "partition" then
    return match Search.splitFirst? part cs with
      | some (before, after) => three before part after
      | none => three cs [] []
  else
    return match Search.splitLast? part cs with
      | some (before, after) => three before part after
      | none => three [] [] cs

def removed (s : Script) (cs : List Char) (name : String) (v : Value) : Except Fault Value := do
  let part ← s.partNamed name "" v
  if name = "removeprefix" then
    return s.value (if part.isPrefixOf cs then cs.drop part.length else cs)
  else return s.value (if part.isSuffixOf cs then cs.take (cs.length - part.length) else cs)

def strip (s : Script) (cs : List Char) (name : String) (args : List Value) : Except Fault Value := do
  let isKind ← match args with
    | [] | .none :: _ => pure s.isBlank
    | v :: _ => (s.partOr v (name ++ " arg must be None or str")).map fun part c => part.contains c
  return s.value (Text.stripped (name ≠ "rstrip") (name ≠ "lstrip") isKind cs)

def replace (s : Script) (cs : List Char) (args : List Value) : Except Fault Value := do
  match args with
  | old :: new :: limit =>
    let old ← s.partNamed "replace" " 1" old
    let new ← s.partNamed "replace" " 2" new
    let limit ← match limit with
      | n :: _ => n.size
      | [] => pure (-1)
    let limit := if limit < 0 then cs.length + 1 else limit.toNat
    return s.value (Text.replaced old new limit cs)
  | _ => return .none

def fillChar (s : Script) (name : String) (v : Value) : Except Fault Char :=
  match s.part? v, s with
  | some [c], _ => .ok c
  | some _, text => Value.told "The fill character must be exactly one character long"
  | none, text => Value.told ("The fill character must be a unicode character, not " ++ v.longTypeName)
  | _, bytes =>
    Value.told (name ++ "() argument 2 must be a byte string of length 1, not " ++ v.argumentType)

def fill (s : Script) (cs : List Char) (name : String) (args : List Value) : Except Fault Value := do
  match args with
  | width :: more =>
    let width ← width.size
    let c ← match more with
      | v :: _ => s.fillChar name v
      | [] => pure ' '
    let p : Text.Placement := match name with
      | "ljust" => .left
      | "rjust" => .right
      | _ => .middle
    return s.value (Text.filled p width.toNat c cs)
  | [] => return .none

def lines (s : Script) (cs : List Char) (args : List Value) : Except Fault Value := do
  let keep ← match args with
    | v :: _ => v.smallSize
    | [] => pure 0
  return .list 0 ((Text.lines s.isLineEnd (keep ≠ 0) cs).map s.value)

def concatenate (s : Script) (cs : List Char) (v : Value) : Except Fault Value :=
  match s.part? v, s with
  | some more, _ => .ok (s.value (cs ++ more))
  | none, text =>
    Value.told ("can only concatenate str (not \"" ++ v.longTypeName ++ "\") to str")
  | none, bytes => Value.told ("can't concat " ++ v.longTypeName ++ " to bytes")

def repeated (s : Script) (cs : List Char) (v : Value) : Except Fault Value := do
  let n ← v.factor
  if !fitsWord (n * cs.length) then
    throw (.overflow (if s = text then "repeated string is too long" else "repeated bytes are too long"))
  return s.value (List.replicate (if cs.isEmpty then 0 else n) cs).flatten

def filledIn (s : Script) (cs : List Char) (v : Value) : Except Fault Value := do
  let ofBytes := s = bytes
  let written ← Lifecycle.fill ofBytes (Directive.piecesOf (String.ofList cs)) (Supply.ofValue ofBytes v)
  return s.value written.toList

def translateChar (table : Value) (c : Char) : Except Fault (List Char) := do
  match table.item (.int c.toNat) with
  | .error (.missingKey _) | .error (.outOfRange _) => return [c]
  | .error f => throw f
  | .ok .none => return []
  | .ok v =>
    match v.text?, v.int? with
    | some s, _ => return s.toList
    | none, some n =>
      if 0 ≤ n && n < 0x110000 then return [Char.ofNat n.toNat]
      else Value.badValue "character mapping must be in range(0x110000)"
    | none, none => Value.told "character mapping must return integer, None or str"

def translate (s : Script) (cs : List Char) (args : List Value) : Except Fault Value := do
  match s, args with
  | text, table :: _ => return s.value (← cs.mapM (translateChar table)).flatten
  | bytes, table :: deleted =>
    let table ← match table with
      | .none => pure Option.none
      | v => (s.part v).map some
    if table.any fun t => t.length ≠ 256 then
      Value.badValue "translation table must be 256 characters long"
    let deleted ← match deleted with
      | v :: _ => s.part v
      | [] => pure []
    let kept := cs.filter fun c => !deleted.contains c
    return s.value (kept.map fun c => ((table.bind fun t => t[c.toNat]?).getD c))
  | _, [] => return .none

def makeTable (s : Script) (args : List Value) : Except Fault Value := do
  match s, args with
  | text, source :: target :: deleted =>
    let target ← s.partNamed "maketrans" " 2" target
    let deleted ← match deleted with
      | v :: _ => s.partNamed "maketrans" " 3" v
      | [] => pure []
    let source ← s.partOr source
      "first maketrans argument must be a string if there is a second argument"
    if source.length ≠ target.length then
      Value.badValue "the first two maketrans arguments must have equal length"
    let number (c : Char) : Value := .int c.toNat
    return .dict 0 (Table.ofList ((source.zip target).map (fun (a, b) => (number a, number b)) ++
      deleted.map fun c => (number c, .none)))
  | bytes, [source, target] =>
    let source ← s.part source
    let target ← s.part target
    if source.length ≠ target.length then Value.badValue "maketrans arguments must have same length"
    let pairs := (source.zip target).reverse
    return s.value ((List.range 256).map fun n =>
      ((pairs.find? fun p => p.1.toNat = n).map (·.2)).getD (Char.ofNat n))
  | _, _ => return .none

def hexMark (v : Value) : Except Fault Char := do
  let size ← match v.elements? with
    | some xs => if v.hasLength then pure xs.length else lacksLength
    | none => lacksLength
  if size ≠ 1 then Value.badValue "sep must be length 1."
  match v.text? <|> v.bytesText? with
  | some s =>
    match s.toList with
    | [c] => if c.toNat < 0x80 then return c else Value.badValue "sep must be ASCII."
    | _ => Value.badValue "sep must be length 1."
  | none => Value.told "sep must be str or bytes."
where
  lacksLength : Except Fault Nat := Value.told ("object of type '" ++ v.longTypeName ++ "' has no len()")

/-- Bytes written out in groups, counted from the end if the size is above zero. -/
def grouped (mark : Char) (size : Int) (pairs : List (List Char)) : List Char :=
  let n := pairs.length
  let isEdge (i : Nat) : Bool :=
    size ≠ 0 && 0 < i && (if 0 < size then (n - i) % size.natAbs = 0 else i % size.natAbs = 0)
  (pairs.zipIdx.map fun (p, i) => if isEdge i then mark :: p else p).flatten

def hex (cs : List Char) (args : List Value) : Except Fault Value := do
  let pairs := cs.map fun c => Text.hexDigits 2 c.toNat
  match args with
  | mark :: more =>
    let size ← match more with
      | v :: _ => v.smallSize
      | [] => pure 1
    return .text (String.ofList (grouped (← hexMark mark) size pairs))
  | [] => return .text (String.ofList pairs.flatten)

def recode (s : Script) (v : Value) (args : List Value) : Except Fault Value := do
  match s, v with
  | bytes, .bytes bs =>
    let (encoding, handling) ← Value.codingArguments "decode" args
    return .text (← Value.decodeBytes bs encoding handling)
  | _, _ =>
    let (encoding, handling) ← Value.codingArguments "encode" args
    return .bytes (← Value.encodeText (v.text?.getD "") encoding handling)

def method (s : Script) (v : Value) (name : String) (args : List Value) : Except Fault Value := do
  let cs := (s.part? v).getD []
  match name, args with
  | "find", w :: bounds | "rfind", w :: bounds | "index", w :: bounds | "rindex", w :: bounds =>
    s.search cs name w bounds
  | "count", w :: bounds => s.count cs w bounds
  | "startswith", w :: bounds | "endswith", w :: bounds => s.touches cs name w bounds
  | "split", _ | "rsplit", _ => s.split cs name args
  | "join", [w] => s.join cs w
  | "partition", [w] | "rpartition", [w] => s.partition cs name w
  | "removeprefix", [w] | "removesuffix", [w] => s.removed cs name w
  | "strip", _ | "lstrip", _ | "rstrip", _ => s.strip cs name args
  | "replace", _ => s.replace cs args
  | "center", _ | "ljust", _ | "rjust", _ => s.fill cs name args
  | "zfill", [w] => return s.value (Text.zeroFilled (← w.size).toNat cs)
  | "expandtabs", [w] => return s.value (Text.withoutTabs (← w.smallSize).toNat 0 cs)
  | "splitlines", _ => s.lines cs args
  | "encode", _ | "decode", _ => s.recode v args
  | "translate", _ => s.translate cs args
  | "hex", _ => hex cs args
  | "format", _ => return .text (← formatFields (String.ofList cs) ⟨some args, none⟩)
  | "format_map", [w] => return .text (← formatFields (String.ofList cs) ⟨none, some w⟩)
  | "__add__", [w] => s.concatenate cs w
  | "__contains__", [w] => return .bool (← v.contains w)
  | "__getitem__", [w] => v.item w
  | "__mul__", [w] | "__rmul__", [w] => s.repeated cs w
  | "__mod__", [w] => s.filledIn cs w
  | "__rmod__", [w] =>
    match s.part? w with
    | some template => s.filledIn template v
    | none => return .notImplemented
  | _, [w] => compareBy name (s.part? w).isSome v w
  | _, _ => return .none

end Script

end Lifecycle
