import Lifecycle.Number.Arithmetic
import Lifecycle.Value.Argument
import Lifecycle.Value.Directive

/-!
The methods of whole numbers and of floating-point numbers.
-/

namespace Lifecycle

namespace Whole

def divisible (b : Int) (text : String) : Except Fault Unit :=
  if b = 0 then .error (.zeroDivision text) else .ok ()

def shift (b : Int) : Except Fault Nat :=
  if b < 0 then Value.badValue "negative shift count" else .ok b.toNat

def power (a b : Int) : Except Fault Value := do
  if 0 ≤ b then return .int (Int.pow a b.toNat)
  if a = 0 then throw (.zeroDivision "0.0 cannot be raised to a negative power")
  let _ ← Directive.real "" (.int a)
  let n := b.natAbs
  let vanishes := a.natAbs ≠ 1 && 1100 < n
  return .float (if vanishes then Binary64.zero false
    else Binary64.ofRatio (a < 0 && n % 2 = 1) 1 (Nat.pow a.natAbs n))

def powerWithin (a b modulus : Int) : Except Fault Value := do
  if modulus = 0 then Value.badValue "pow() 3rd argument cannot be 0"
  let base ← if 0 ≤ b then pure a
    else match Arithmetic.inverse? a modulus with
      | some base => pure base
      | none => Value.badValue "base is not invertible for the given modulus"
  return .int (Arithmetic.powerWithin modulus (b.natAbs.log2 + 1) base b.natAbs)

def quotient (a b : Int) : Except Fault Value := do
  divisible b "division by zero"
  let x := Binary64.ofRatio (decide (a < 0) != decide (b < 0)) a.natAbs b.natAbs
  match x with
  | .infinite _ => throw (.overflow "integer division result too large for a float")
  | x => return .float x

def operate (operation : String) (a b : Int) : Except Fault Value := do
  match operation with
  | "add" => return .int (a + b)
  | "sub" => return .int (a - b)
  | "mul" => return .int (a * b)
  | "mod" =>
    divisible b "integer modulo by zero"
    return .int (Int.fmod a b)
  | "floordiv" =>
    divisible b "integer division or modulo by zero"
    return .int (Int.fdiv a b)
  | "divmod" =>
    divisible b "integer division or modulo by zero"
    return .tuple [.int (Int.fdiv a b), .int (Int.fmod a b)]
  | "truediv" => quotient a b
  | "pow" => power a b
  | "and" => return .int (Arithmetic.bitwise BitVec.and a b)
  | "or" => return .int (Arithmetic.bitwise BitVec.or a b)
  | "xor" => return .int (Arithmetic.bitwise BitVec.xor a b)
  | "lshift" =>
    let n ← shift b
    return .int (if a = 0 then 0 else a * twoTo n)
  | "rshift" =>
    let n ← shift b
    return .int (if a.natAbs.log2 < n then (if a < 0 then -1 else 0) else Int.fdiv a (twoTo n))
  | _ => return .notImplemented

def byteOrder (callee : String) (v : Value) : Except Fault Bool := do
  match ← Value.needTextArgument callee " 'byteorder'" v with
  | "big" => return true
  | "little" => return false
  | _ => Value.badValue "byteorder must be either 'little' or 'big'"

def byteOf (v : Value) : Except Fault UInt8 := do
  let n ← v.index
  if 0 ≤ n && n < 256 then return UInt8.ofNat n.toNat
  else Value.badValue "bytes must be in range(0, 256)"

def bytesOf (v : Value) : Except Fault (List UInt8) :=
  match v, v.text?, v.elements? with
  | .bytes bs, _, _ => .ok bs
  | _, none, some xs => xs.mapM byteOf
  | _, _, _ => Value.told ("cannot convert '" ++ v.longTypeName ++ "' object to bytes")

def ofBytes (args : List Value) : Except Fault Value := do
  match args with
  | v :: order :: _ =>
    let big ← byteOrder "from_bytes" order
    let bs ← bytesOf v
    let digits := if big then bs else bs.reverse
    return .int (digits.foldl (fun (n : Int) b => n * 256 + b.toNat) 0)
  | v :: [] => return .int ((← bytesOf v).foldl (fun (n : Int) b => n * 256 + b.toNat) 0)
  | [] => return .none

/-- The lowest bytes of a number, the least of them first. -/
def lowBytes (n : Nat) : Nat → List UInt8
  | 0 => []
  | size + 1 => UInt8.ofNat (n % 256) :: lowBytes (n / 256) size

def toBytes (n : Int) (args : List Value) : Except Fault Value := do
  let size ← match args with
    | size :: _ => size.size
    | [] => pure 1
  let big ← match args with
    | _ :: order :: _ => byteOrder "to_bytes" order
    | _ => pure true
  if size < 0 then Value.badValue "length argument must be non-negative"
  if n < 0 then throw (.overflow "can't convert negative int to unsigned")
  let needed := if n = 0 then 0 else n.natAbs.log2 / 8 + 1
  if size < needed then throw (.overflow "int too big to convert")
  if (twoTo 62 : Int) < size then throw (.overflow "byte string is too large")
  let low := lowBytes n.toNat size.toNat
  return .bytes (if big then low.reverse else low)

def rounded (n : Int) (places : Value) : Except Fault Value := do
  let places ← places.index
  if 0 ≤ places then return .int n
  let digits := (Nat.toDigits 10 n.natAbs).length
  return .int (if digits < places.natAbs then 0
    else Arithmetic.nearestMultiple n (tenTo places.natAbs))

def method (type : String) (v : Value) (n : Int) (name : String) (args : List Value) :
    Except Fault Value :=
  match name, args, Arithmetic.ofName? name with
  | "to_bytes", args, _ => toBytes n args
  | "__round__", [places], _ => rounded n places
  | "__pow__", [exponent, modulus], _ | "__rpow__", [exponent, modulus], _ =>
    match exponent.int?, modulus, modulus.int? with
    | some b, .none, _ => if name = "__pow__" then power n b else power b n
    | some b, _, some m => if name = "__pow__" then powerWithin n b m else powerWithin b n m
    | _, _, _ => .ok .notImplemented
  | _, [w], some (operation, reflected) =>
    match w.int? with
    | some k =>
      match type, v, w with
      | "bool", .bool a, .bool b =>
        match operation with
        | "and" => .ok (.bool (a && b))
        | "or" => .ok (.bool (a || b))
        | _ => .ok (.bool (a != b))
      | _, _, _ => if reflected then operate operation k n else operate operation n k
    | none => .ok .notImplemented
  | _, [w], none => compareBy name w.int?.isSome v w
  | _, _, _ => .ok .none

end Whole

namespace Floating

def valueOf (x : Float) : Value :=
  match Binary64.ofFloat? x with
  | some x => .float x
  | none => .nan 0

def divisible (y : Binary64) (text : String) : Except Fault Unit :=
  if y.isZero then .error (.zeroDivision text) else .ok ()

def isFinite (x : Binary64) : Bool := x.toExact?.isSome

/-- A power. Of a number below zero only whole powers are real. -/
def power (x y : Binary64) : Except Fault Value := do
  if x.isZero && y.isNegative && !y.isZero then
    throw (.zeroDivision "0.0 cannot be raised to a negative power")
  if x.isNegative && isFinite x && !x.isZero && !y.isWhole then return .sealed 0 "complex" "(1+1j)"
  match Binary64.ofFloat? (Float.pow x.toFloat y.toFloat) with
  | some (.infinite _) =>
    if isFinite x && isFinite y then throw (.overflow "(34, 'Numerical result out of range')")
    return .float (.infinite false)
  | some z => return .float z
  | none => return valueOf (0 / 0)

def divided (x y : Binary64) : Value × Value :=
  match x.divided? y with
  | some (count, left) => (.float count, .float left)
  | none => (valueOf (0 / 0), valueOf (0 / 0))

def operate (operation : String) (x y : Binary64) : Except Fault Value := do
  match operation with
  | "add" => return valueOf (x.toFloat + y.toFloat)
  | "sub" => return valueOf (x.toFloat - y.toFloat)
  | "mul" => return valueOf (x.toFloat * y.toFloat)
  | "truediv" =>
    divisible y "float division by zero"
    return valueOf (x.toFloat / y.toFloat)
  | "mod" =>
    divisible y "float modulo"
    return (divided x y).2
  | "floordiv" =>
    divisible y "float floor division by zero"
    return (divided x y).1
  | "divmod" =>
    divisible y "float divmod()"
    return .tuple [(divided x y).1, (divided x y).2]
  | "pow" => power x y
  | _ => return .notImplemented

def rounded (x : Binary64) (places : Value) : Except Fault Value := do
  match x, places with
  | .infinite _, .none => throw .infiniteNumber
  | .finite negative m e, .none =>
    let n : Int := Decimals.scaled m e 0
    return .int (if negative then -n else n)
  | .infinite _, places =>
    let _ ← places.index
    return .float x
  | .finite negative m e, places =>
    let places ← places.index
    if 323 < places then return .float x
    if places < -308 then return .float (Binary64.zero negative)
    match Binary64.ofDecimal negative (Decimals.scaled m e places) (-places) with
    | .infinite _ => throw (.overflow "rounded value too large to represent")
    | y => return .float y

def method (x : Binary64) (name : String) (args : List Value) : Except Fault Value := do
  let real? (w : Value) : Bool := match w with
    | .float _ => true
    | w => w.int?.isSome
  match name, args, Arithmetic.ofName? name with
  | "__round__", [places], _ => rounded x places
  | "__pow__", [w, modulus], _ | "__rpow__", [w, modulus], _ =>
    match modulus with
    | .none =>
      if !real? w then return .notImplemented
      let y ← Directive.real "" w
      if name = "__pow__" then power x y else power y x
    | _ => Value.told "pow() 3rd argument not allowed unless all arguments are integers"
  | _, [w], some (operation, reflected) =>
    if !real? w then return .notImplemented
    let y ← Directive.real "" w
    if reflected then operate operation y x else operate operation x y
  | _, [w], none => compareBy name w.isReal (.float x) w
  | _, _, _ => return .none

end Floating

end Lifecycle
