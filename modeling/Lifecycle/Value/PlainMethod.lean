import Lifecycle.Value.Conversion

/-!
The methods of the plain types, by name and by the number of arguments they take. Any other number is
refused (`accept_eq_ok_iff` for those that take a fixed number), each kind in words of its own.
-/

namespace Lifecycle

/-- How many arguments a method of a plain type takes besides the value it is called on. -/
inductive Arity where
  /-- An operator of so many operands. -/
  | operand (n : Nat)
  | nothing
  | one
  /-- A number within bounds, told by the method's name. -/
  | within (least most : Nat)
  /-- A number within bounds, told by no name. -/
  | withinUnnamed (least most : Nat)
  /-- A number within bounds, told as of a call. -/
  | called (least most : Nat)
  /-- At most so many, of which at most `places` without a name. -/
  | named (most places : Nat)
  | any
  deriving DecidableEq

namespace Arity

def counted (n : Nat) : String :=
  toString n ++ (if n = 1 then " argument" else " arguments")

def withinText (name : String) (least most given : Nat) : String :=
  name ++ " expected " ++
    (if least = most then "" else if given < least then "at least " else "at most ") ++
    counted (if given < least then least else most) ++ ", got " ++ toString given

def givenText (given : Nat) : String := " (" ++ toString given ++ " given)"

def calledText (name : String) (least most given : Nat) : String :=
  name ++ "() takes " ++
    (if least = most then "exactly " else if given < least then "at least " else "at most ") ++
    counted (if given < least then least else most) ++ givenText given

def complaint? (a : Arity) (type name : String) (given : Nat) : Option String :=
  let outside (least most : Nat) (text : String) : Option String :=
    if given < least || most < given then some text else none
  match a with
  | operand n => outside n n ("expected " ++ counted n ++ ", got " ++ toString given)
  | nothing => outside 0 0 (type ++ "." ++ name ++ "() takes no arguments" ++ givenText given)
  | one => outside 1 1 (type ++ "." ++ name ++ "() takes exactly one argument" ++ givenText given)
  | within least most => outside least most (withinText name least most given)
  | withinUnnamed least most => outside least most (withinText "" least most given)
  | called least most => outside least most (calledText name least most given)
  | named most places =>
    if most < given then some (calledText name 0 most given)
    else if given ≤ places then none
    else if places = 0 then some (name ++ "() takes no positional arguments")
    else some (name ++ "() takes at most " ++ toString places ++ " positional arguments" ++
      givenText given)
  | any => none

def accept (a : Arity) (type name : String) (given : Nat) : Except Fault Unit :=
  match a.complaint? type name given with
  | some text => Value.told text
  | none => .ok ()

end Arity

/-- A method of a plain type: the type it is declared by, and whether it belongs to that type rather
than to its values. -/
structure PlainMethod where
  type : String
  arity : Arity
  ofType : Bool

namespace Plain

def comparisons : String := "__eq__ __ge__ __gt__ __le__ __lt__ __ne__ __getattribute__"

def sequenceWords : List (Arity × String) := [
  (.within 1 2, "center ljust rjust"),
  (.called 1 3, "count endswith find index rfind rindex startswith"),
  (.called 0 2, "rsplit split"),
  (.called 0 1, "expandtabs splitlines"),
  (.one, "join partition removeprefix removesuffix rpartition zfill"),
  (.within 0 1, "lstrip rstrip strip"),
  (.within 2 3, "replace"),
  (.nothing, "__getnewargs__ capitalize isalnum isalpha isascii isdigit islower isspace istitle isupper " ++
    "lower swapcase title upper"),
  (.operand 0, "__hash__ __iter__ __len__ __repr__ __str__"),
  (.operand 1, "__add__ __contains__ __getitem__ __mod__ __rmod__ " ++ comparisons),
  (.withinUnnamed 1 1, "__mul__ __rmul__")]

def setWords : List (Arity × String) := [
  (.operand 1, "__and__ __or__ __rand__ __ror__ __rsub__ __rxor__ __sub__ __xor__ " ++ comparisons),
  (.one, "__contains__ isdisjoint issubset issuperset symmetric_difference"),
  (.any, "difference intersection union"),
  (.operand 0, "__iter__ __len__ __repr__"),
  (.nothing, "__reduce__ __sizeof__ copy")]

def ofValues : String → List (Arity × String)
  | "object" => [
    (.operand 0, "__hash__ __repr__ __str__"),
    (.operand 1, "__delattr__ " ++ comparisons),
    (.withinUnnamed 2 2, "__setattr__"),
    (.nothing, "__dir__ __getstate__ __reduce__ __sizeof__"),
    (.one, "__format__ __reduce_ex__"),
    (.any, "__init__")]
  | "NoneType" => [(.operand 0, "__bool__ __repr__")]
  | "bool" => [
    (.operand 0, "__repr__"),
    (.operand 1, "__and__ __or__ __rand__ __ror__ __rxor__ __xor__")]
  | "int" => [
    (.operand 0, "__abs__ __bool__ __float__ __hash__ __index__ __int__ __invert__ __neg__ __pos__ " ++
      "__repr__"),
    (.operand 1, "__add__ __and__ __divmod__ __floordiv__ __lshift__ __mod__ __mul__ __or__ __radd__ " ++
      "__rand__ __rdivmod__ __rfloordiv__ __rlshift__ __rmod__ __rmul__ __ror__ __rrshift__ " ++
      "__rshift__ __rsub__ __rtruediv__ __rxor__ __sub__ __truediv__ __xor__ " ++ comparisons),
    (.withinUnnamed 1 2, "__pow__ __rpow__"),
    (.within 0 1, "__round__"),
    (.nothing, "__ceil__ __floor__ __getnewargs__ __sizeof__ __trunc__ as_integer_ratio bit_count " ++
      "bit_length conjugate"),
    (.one, "__format__"),
    (.named 3 2, "to_bytes")]
  | "float" => [
    (.operand 0, "__abs__ __bool__ __float__ __hash__ __int__ __neg__ __pos__ __repr__"),
    (.operand 1, "__add__ __divmod__ __floordiv__ __mod__ __mul__ __radd__ __rdivmod__ " ++
      "__rfloordiv__ __rmod__ __rmul__ __rsub__ __rtruediv__ __sub__ __truediv__ " ++ comparisons),
    (.withinUnnamed 1 2, "__pow__ __rpow__"),
    (.within 0 1, "__round__"),
    (.nothing, "__ceil__ __floor__ __getnewargs__ __trunc__ as_integer_ratio conjugate hex is_integer"),
    (.one, "__format__")]
  | "str" => sequenceWords ++ [
    (.called 0 2, "encode"),
    (.one, "__format__ format_map translate"),
    (.any, "format"),
    (.nothing, "__sizeof__ casefold isdecimal isidentifier isnumeric isprintable")]
  | "bytes" => sequenceWords ++ [
    (.called 0 2, "decode hex"),
    (.called 1 2, "translate"),
    (.nothing, "__bytes__")]
  | "list" => [
    (.operand 0, "__iter__ __len__ __repr__"),
    (.operand 1, "__add__ __contains__ __delitem__ __iadd__ " ++ comparisons),
    (.withinUnnamed 1 1, "__imul__ __mul__ __rmul__"),
    (.withinUnnamed 2 2, "__setitem__"),
    (.one, "__getitem__ append count extend remove"),
    (.nothing, "__reversed__ __sizeof__ clear copy reverse"),
    (.within 1 3, "index"), (.within 2 2, "insert"), (.within 0 1, "pop"), (.named 2 0, "sort"),
    (.any, "__init__")]
  | "tuple" => [
    (.operand 0, "__hash__ __iter__ __len__ __repr__"),
    (.operand 1, "__add__ __contains__ __getitem__ " ++ comparisons),
    (.withinUnnamed 1 1, "__mul__ __rmul__"),
    (.nothing, "__getnewargs__"), (.one, "count"), (.within 1 3, "index")]
  | "dict" => [
    (.operand 0, "__iter__ __len__ __repr__"),
    (.operand 1, "__delitem__ __ior__ __or__ __ror__ " ++ comparisons),
    (.withinUnnamed 2 2, "__setitem__"),
    (.one, "__contains__ __getitem__"),
    (.nothing, "__reversed__ __sizeof__ clear copy items keys popitem values"),
    (.within 1 2, "get pop setdefault"), (.within 0 1, "update"), (.any, "__init__")]
  | "set" => setWords ++ [
    (.operand 1, "__iand__ __ior__ __isub__ __ixor__"),
    (.one, "add discard remove symmetric_difference_update"),
    (.any, "__init__ difference_update intersection_update update"),
    (.nothing, "clear pop")]
  | "frozenset" => setWords ++ [(.operand 0, "__hash__")]
  | "range" => [
    (.operand 0, "__bool__ __hash__ __iter__ __len__ __repr__"),
    (.operand 1, "__contains__ __getitem__ " ++ comparisons),
    (.nothing, "__reversed__"), (.one, "count index"), (.any, "__reduce__")]
  | "generator" => [
    (.operand 0, "__del__ __iter__ __next__ __repr__"),
    (.operand 1, "__getattribute__"),
    (.nothing, "__sizeof__ close"), (.one, "send"), (.within 1 3, "throw")]
  | "SimpleNamespace" => [
    (.operand 0, "__repr__"), (.nothing, "__reduce__"), (.any, "__init__"),
    (.operand 1, "__delattr__ " ++ comparisons), (.withinUnnamed 2 2, "__setattr__")]
  | "type" => [
    (.operand 0, "__repr__"),
    (.operand 1, "__delattr__ __getattribute__ __or__ __ror__"),
    (.withinUnnamed 2 2, "__setattr__"),
    (.nothing, "__dir__ __sizeof__ __subclasses__ mro"),
    (.one, "__instancecheck__ __subclasscheck__"),
    (.any, "__call__ __init__")]
  | _ => []

def ofTypes : String → List (Arity × String)
  | "object" => [(.nothing, "__init_subclass__"), (.any, "__new__ __subclasshook__")]
  | "int" => [(.any, "__new__"), (.named 3 2, "from_bytes")]
  | "float" => [(.any, "__new__"), (.one, "__getformat__ fromhex")]
  | "str" => [(.any, "__new__"), (.within 1 3, "maketrans")]
  | "bytes" => [(.any, "__new__"), (.one, "fromhex"), (.within 2 2, "maketrans")]
  | "dict" => [(.any, "__new__"), (.one, "__class_getitem__"), (.within 1 2, "fromkeys")]
  | "list" | "tuple" | "set" | "frozenset" => [(.any, "__new__"), (.one, "__class_getitem__")]
  | "NoneType" | "bool" | "range" | "SimpleNamespace" => [(.any, "__new__")]
  | "type" => [(.any, "__new__ __prepare__")]
  | _ => []

def arityIn? (table : List (Arity × String)) (name : String) : Option Arity :=
  (table.find? fun e => (e.2.splitOn " ").contains name).map (·.1)

def lacks (type name : String) : Bool :=
  name = "__hash__" && ["list", "set", "dict", "SimpleNamespace"].contains type

def find? (type name : String) : Option PlainMethod :=
  if name = "" then none
  else match arityIn? (ofValues type) name, arityIn? (ofTypes type) name with
    | some a, _ => some ⟨type, a, false⟩
    | none, some a => some ⟨type, a, true⟩
    | none, none => none

/-- The method that a type has, where it or one of those it descends from declares it. -/
def inherited? (lineage : List String) (name : String) : Option PlainMethod :=
  if lineage.any fun t => lacks t name then none else lineage.findSome? fun t => find? t name

end Plain

namespace PlainMethod

def isOperator (m : PlainMethod) : Bool :=
  match m.arity with
  | .operand _ | .withinUnnamed .. => true
  | _ => false

def kindOnValue (m : PlainMethod) (name : String) : String :=
  if !m.ofType && (m.isOperator || name = "__init__" || name = "__call__") then "method-wrapper"
  else "builtin_function_or_method"

def kindOnType (m : PlainMethod) (name : String) : String :=
  if m.ofType then "builtin_function_or_method"
  else if m.isOperator || name = "__init__" || name = "__call__" then "wrapper_descriptor"
  else "method_descriptor"

def needOwner (m : PlainMethod) (name : String) (v : Value) : Except Fault Unit :=
  let type := if m.type = "SimpleNamespace" then "types." ++ m.type else m.type
  if v.typeName.within (.named m.type) then .ok ()
  else if m.kindOnType name = "wrapper_descriptor" then
    Value.told ("descriptor '" ++ name ++ "' requires a '" ++ type ++ "' object but received a '" ++
      v.longTypeName ++ "'")
  else Value.told ("descriptor '" ++ name ++ "' for '" ++ type ++ "' objects doesn't apply to a '" ++
    v.longTypeName ++ "' object")

end PlainMethod

namespace TypeName

/-- The plain types whose methods the values of a type have, the nearest first. -/
def lineage : TypeName → List String
  | named "bool" => ["bool", "int", "object"]
  | named "object" => ["object"]
  | named n => [n, "object"]
  | enumeration _ .plain | owner .. => ["object"]
  | enumeration _ .numeric => ["int", "object"]
  | enumeration .. => ["str", "object"]

end TypeName

end Lifecycle
