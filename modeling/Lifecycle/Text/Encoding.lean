import Lifecycle.Text.Quoted

namespace Lifecycle.Text

inductive Encoding where
  | ascii
  | latin1
  | utf8
  deriving DecidableEq

namespace Encoding

def name : Encoding → String
  | ascii => "ascii"
  | latin1 => "latin-1"
  | utf8 => "utf-8"

/-- The names an encoding goes by, in small letters with underscores between their words. -/
def spellings : List (Encoding × List String) := [
  (utf8, ["utf_8", "utf8", "u8", "utf", "utf8_ucs2", "utf8_ucs4", "cp65001"]),
  (ascii, ["ascii", "646", "ansi_x3.4_1968", "ansi_x3_4_1968", "ansi_x3.4_1986", "cp367", "csascii",
    "ibm367", "iso646_us", "iso_646.irv_1991", "iso_ir_6", "us", "us_ascii"]),
  (latin1, ["latin_1", "latin1", "latin", "l1", "8859", "cp819", "csisolatin1", "ibm819", "iso8859",
    "iso8859_1", "iso_8859_1", "iso_8859_1_1987", "iso_ir_100"])]

def nameWords (cs : List Char) : List (List Char) :=
  let isPart (c : Char) := c.isAlphanum || c = '.'
  (cs.splitBy fun a b => isPart a && isPart b).filter fun w => w.any isPart

def ofName? (s : String) : Option Encoding :=
  let words := (nameWords s.toList).map fun w => String.ofList (w.map Char.toLower)
  let spelled := String.intercalate "_" words
  if s.any fun (c : Char) => 0x80 ≤ c.toNat then none
  else (spellings.find? fun e => e.2.contains spelled).map (·.1)

end Encoding

structure Gap where
  start : Nat
  size : Nat
  first : UInt8
  reason : String
  deriving DecidableEq

inductive Handling where
  | strict
  | ignore
  | replace
  deriving DecidableEq

def Handling.ofName? : String → Option Handling
  | "strict" => some .strict
  | "ignore" => some .ignore
  | "replace" => some .replace
  | _ => none

def followers (first : UInt8) : List (UInt8 × UInt8) :=
  if 0xc2 ≤ first && first ≤ 0xdf then [(0x80, 0xbf)]
  else if 0xe0 ≤ first && first ≤ 0xef then
    [(if first = 0xe0 then 0xa0 else 0x80, if first = 0xed then 0x9f else 0xbf), (0x80, 0xbf)]
  else if 0xf0 ≤ first && first ≤ 0xf4 then
    [(if first = 0xf0 then 0x90 else 0x80, if first = 0xf4 then 0x8f else 0xbf), (0x80, 0xbf),
      (0x80, 0xbf)]
  else []

/-- How many bytes lie in the spans, one after the other, before one that does not. -/
def countWithin : List (UInt8 × UInt8) → List UInt8 → Nat
  | (low, high) :: spans, b :: bs => if low ≤ b && b ≤ high then countWithin spans bs + 1 else 0
  | _, _ => 0

def codePoint (first : UInt8) (following : List UInt8) : Nat :=
  following.foldl (fun n b => n * 64 + b.toNat % 64)
    (first.toNat % (0x40 >>> following.length))

/-- One character from its first byte and what follows, or why there is none, and how many of the
bytes that follow belong to it. -/
def decodeStep (e : Encoding) (first : UInt8) (rest : List UInt8) : Except String Char × Nat :=
  match e with
  | .latin1 => (.ok (Char.ofNat first.toNat), 0)
  | .ascii =>
    if first < 0x80 then (.ok (Char.ofNat first.toNat), 0)
    else (.error "ordinal not in range(128)", 0)
  | .utf8 =>
    let spans := followers first
    let count := countWithin spans rest
    if first < 0x80 then (.ok (Char.ofNat first.toNat), 0)
    else if spans.isEmpty then (.error "invalid start byte", 0)
    else if count = spans.length then
      (.ok (Char.ofNat (codePoint first (rest.take count))), count)
    else if count = rest.length then (.error "unexpected end of data", count)
    else (.error "invalid continuation byte", count)

def decodeFrom (e : Encoding) (start : Nat) : List UInt8 → List (Except Gap Char)
  | [] => []
  | b :: rest =>
    let (read, more) := decodeStep e b rest
    let here := match read with
      | .ok c => .ok c
      | .error reason => .error ⟨start, more + 1, b, reason⟩
    here :: decodeFrom e (start + more + 1) (rest.drop more)
termination_by bs => bs.length
decreasing_by rw [List.length_drop, List.length_cons]; omega

def firstGap? (read : List (Except Gap Char)) : Option Gap :=
  read.findSome? fun
    | .error g => some g
    | .ok _ => none

/-- The text that bytes stand for; a gap is a failure, or is dropped, or becomes a mark. -/
def decode (e : Encoding) (h : Handling) (bs : List UInt8) : Except Gap String :=
  let read := decodeFrom e 0 bs
  let text (mark : List Char) := String.ofList (read.flatMap fun
    | .ok c => [c]
    | .error _ => mark)
  match h, firstGap? read with
  | .strict, some g => .error g
  | .replace, _ => .ok (text ['\ufffd'])
  | _, _ => .ok (text [])

def Encoding.range : Encoding → Nat
  | ascii => 128
  | latin1 => 256
  | utf8 => 0x110000

structure Excess where
  start : Nat
  size : Nat
  first : Char
  deriving DecidableEq

def firstExcess? (e : Encoding) (start : Nat) : List Char → Option Excess
  | [] => none
  | c :: rest =>
    if c.toNat < e.range then firstExcess? e (start + 1) rest
    else some ⟨start, (rest.takeWhile fun d => e.range ≤ d.toNat).length + 1, c⟩

def encodeChar (e : Encoding) (c : Char) : List UInt8 :=
  match e with
  | .utf8 => (String.singleton c).toUTF8.toList
  | _ => [UInt8.ofNat c.toNat]

/-- The bytes of a text; what has no form is a failure, or is dropped, or becomes a question mark. -/
def encode (e : Encoding) (h : Handling) (s : String) : Except Excess (List UInt8) :=
  let fits (c : Char) : Bool := c.toNat < e.range
  match h, firstExcess? e 0 s.toList with
  | .strict, some x => .error x
  | .replace, _ => .ok (s.toList.flatMap fun c => encodeChar e (if fits c then c else '?'))
  | _, _ => .ok ((s.toList.filter fits).flatMap (encodeChar e))

/-- A place in bytes or text that cannot be carried over, from its first position. -/
def positions (one : String) (start size : Nat) : String :=
  if size = 1 then one ++ " in position " ++ toString start
  else "s in position " ++ toString start ++ "-" ++ toString (start + size - 1)

def Gap.message (g : Gap) (e : Encoding) : String :=
  "'" ++ e.name ++ "' codec can't decode byte" ++
    positions (" 0x" ++ String.ofList (hexDigits 2 g.first.toNat)) g.start g.size ++ ": " ++ g.reason

def Excess.message (x : Excess) (e : Encoding) : String :=
  "'" ++ e.name ++ "' codec can't encode character" ++
    positions (" '" ++ String.ofList (charCode x.first) ++ "'") x.start x.size ++
    ": ordinal not in range(" ++ toString e.range ++ ")"

end Lifecycle.Text
