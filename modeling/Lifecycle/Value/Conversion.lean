import Lifecycle.Collection
import Lifecycle.Number.Numeral

namespace Lifecycle

def Binary64.truncated? (x : Binary64) : Option Int :=
  x.toExact?.map fun e => Int.tdiv e.num (twoTo e.twos)

namespace Value

def told {α : Type} (text : String) : Except Fault α := .error (.misuse (.told text))

def bytesText? : Value → Option String
  | bytes bs => some (String.ofList (bs.map fun b => Char.ofNat b.toNat))
  | _ => Option.none

def written? (v : Value) : Option (List Char) := (v.bytesText? <|> v.text?).map String.toList

def readNumeral (base : Nat) (v : Value) (cs : List Char) : Except Fault Int :=
  match Numeral.read base cs with
  | .ok n => .ok n
  | .error (.longNumber digits) => .error (.badValue (.longNumber digits))
  | .error _ => .error (.badValue (.numeral base v))

/-- The whole number that a number comes to without its fraction, or that a numeral stands for. -/
def wholeNumber (v : Value) : Except Fault Int :=
  match v, v.int?, v.written? with
  | float x, _, _ =>
    match x.truncated? with
    | some n => .ok n
    | Option.none => .error .infiniteNumber
  | nan _, _, _ => .error (.badValue (.told "cannot convert float NaN to integer"))
  | _, some n, _ => .ok n
  | _, Option.none, some cs => readNumeral 10 v cs
  | _, Option.none, Option.none =>
    told ("int() argument must be a string, a bytes-like object or a real number, not '" ++
      v.longTypeName ++ "'")

def wholeNumberIn (v base : Value) : Except Fault Int :=
  match base.int?, v.written? with
  | Option.none, _ => told ("'" ++ base.longTypeName ++ "' object cannot be interpreted as an integer")
  | some b, written =>
    if b < 0 || b = 1 || 36 < b then .error (.badValue .baseRange)
    else match written with
      | some cs => readNumeral b.toNat v cs
      | Option.none => told "int() can't convert non-string with explicit base"

def makeInt : List Value → Except Fault Int
  | [] => .ok 0
  | [v] => v.wholeNumber
  | [v, base] => v.wholeNumberIn base
  | vs => told ("int() takes at most 2 arguments (" ++ toString vs.length ++ " given)")

def argumentType (v : Value) : String :=
  match v with
  | none => "None"
  | v => v.longTypeName

def textArgument (callee argument : String) (v : Value) : Except Fault String :=
  match v.text? with
  | some s => if s.contains '\x00' then .error (.badValue .nullInName) else .ok s
  | Option.none =>
    told (callee ++ "() argument '" ++ argument ++ "' must be str, not " ++ v.argumentType)

def encodingOf (name : String) : Except Fault Text.Encoding :=
  match Text.Encoding.ofName? name with
  | some e => .ok e
  | Option.none => .error (.unknownEncoding name)

def handlingOf (name : String) : Except Fault Text.Handling :=
  match Text.Handling.ofName? name with
  | some h => .ok h
  | Option.none => .error (.unknownHandling name)

/-- What an encoding makes of bytes. How gaps are handled is looked up only where there is one. -/
def decodeBytes (bs : List UInt8) (encoding handling : String) : Except Fault String :=
  if bs.isEmpty then .ok ""
  else do
    let e ← encodingOf encoding
    match Text.decode e .strict bs with
    | .ok s => return s
    | .error g =>
      match Text.decode e (← handlingOf handling) bs with
      | .ok s => return s
      | .error _ => throw (.undecodable e g)

def encodeText (s encoding handling : String) : Except Fault (List UInt8) := do
  let e ← encodingOf encoding
  match Text.encode e .strict s with
  | .ok bs => return bs
  | .error x =>
    match Text.encode e (← handlingOf handling) s with
    | .ok bs => return bs
    | .error _ => throw (.unencodable e x)

def codingArguments (callee : String) : List Value → Except Fault (String × String)
  | encoding :: handling :: _ => do
    let e ← textArgument callee "encoding" encoding
    return (e, ← textArgument callee "errors" handling)
  | encoding :: [] => return (← textArgument callee "encoding" encoding, "strict")
  | [] => return ("utf-8", "strict")

/-- A value as text: by its display, or decoded if it is bytes and an encoding is given. -/
def makeText (args : List Value) : Except Fault String :=
  match args with
  | [] => .ok ""
  | [v] => .ok v.display
  | v :: coding =>
    if 3 < args.length then
      told ("str() takes at most 3 arguments (" ++ toString args.length ++ " given)")
    else do
      let (encoding, handling) ← codingArguments "str" coding
      match v, v.text? with
      | bytes bs, _ => decodeBytes bs encoding handling
      | _, some _ => told "decoding str is not supported"
      | _, Option.none =>
        told ("decoding to str: need a bytes-like object, " ++ v.longTypeName ++ " found")

def makeBytes (v : Value) (coding : List Value) : Except Fault (List UInt8) :=
  if 2 < coding.length then
    told ("bytes() takes at most 3 arguments (" ++ toString (coding.length + 1) ++ " given)")
  else do
    let (encoding, handling) ← codingArguments "bytes" coding
    match v.text? with
    | some s => encodeText s encoding handling
    | Option.none => told "encoding without a string argument"

end Value

end Lifecycle
