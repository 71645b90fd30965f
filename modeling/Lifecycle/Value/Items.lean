import Lifecycle.Enumeration
import Lifecycle.Rules

namespace Lifecycle

def occursIn {α : Type} [BEq α] (part : List α) : List α → Bool
  | [] => part.isEmpty
  | x :: xs => part.isPrefixOf (x :: xs) || occursIn part xs

/-- The place that an index means, where one below zero counts from the end. -/
def placeOf? (size : Nat) (index : Int) : Option Nat :=
  let i := if index < 0 then index + size else index
  if 0 ≤ i && i < size then some i.toNat else none

namespace Value

def bytesContain (bs : List UInt8) (v : Value) : Except Fault Bool :=
  match v, v.int? with
  | bytes part, _ => .ok (occursIn part bs)
  | _, some n =>
    if 0 ≤ n && n < 256 then .ok (bs.contains (UInt8.ofNat n.toNat)) else .error (.badValue .byteRange)
  | _, Option.none => told ("a bytes-like object is required, not '" ++ v.longTypeName ++ "'")

def rangeContains (start stop step : Int) (v : Value) : Bool :=
  match v.key with
  | .node (.number x) .nil =>
    x.isWhole && (x.num - start) % step = 0 &&
      (if 0 < step then start ≤ x.num && x.num < stop else stop < x.num && x.num ≤ start)
  | _ => false

/-- Whether a container holds a value: a mapping a key, a text a part of it. -/
def contains (container v : Value) : Except Fault Bool := do
  match container, container.text? with
  | _, some s =>
    match v.text? with
    | some part => return occursIn part.toList s.toList
    | Option.none => told ("'in <string>' requires string as left operand, not " ++ v.longTypeName)
  | dict _ items, _ =>
    v.needHashable
    return Table.hasKey items v
  | set _ _ xs, _ =>
    v.asElement.needHashable
    return holds xs v
  | list _ xs, _ | tuple xs, _ | stream _ xs, _ => return holds xs v
  | row columns, _ => return holds (columns.map (·.2)) v
  | range start stop step, _ => return rangeContains start stop step v
  | bytes bs, _ => bytesContain bs v
  | matcher m, _ => return m.containsPair v
  | domain _ d, _ => return d.contains v
  | enumeration e, _ =>
    match v with
    | member of .. => return of.name = e.name
    | _ =>
      told ("unsupported operand type(s) for 'in': '" ++ v.typeName.name ++ "' and 'EnumType'")
  | _, _ => throw (.misuse (.notContainer container.longTypeName))

/-- The fault of an index too large for any sequence that is held in memory. -/
def beyondIndices (index : Value) : Fault :=
  .noPlace ("cannot fit '" ++ index.longTypeName ++ "' into an index-sized integer")

def elementAt (called outside : String) (xs : List Value) (index : Value) : Except Fault Value :=
  match index.int? with
  | Option.none => .error (.misuse (.badIndex called index.longTypeName))
  | some n =>
    if called ≠ "range" && !fitsWord n then .error index.beyondIndices
    else match (placeOf? xs.length n).bind fun i => xs[i]? with
    | some x => .ok x
    | Option.none => .error (.outOfRange outside)

def item (container key : Value) : Except Fault Value := do
  match container, container.text? with
  | _, some _ => elementAt "str" "string" (container.elements?.getD []) key
  | dict _ items, _ =>
    match ← Table.lookup items key with
    | some v => return v
    | Option.none => throw (.missingKey key)
  | list _ xs, _ => elementAt "list" "list" xs key
  | tuple xs, _ => elementAt "tuple" "tuple" xs key
  | row columns, _ => elementAt "tuple" "tuple" (columns.map (·.2)) key
  | bytes _, _ => elementAt "byte" "" (container.elements?.getD []) key
  | range .., _ => elementAt "range" "range object" (container.elements?.getD []) key
  | enumeration e, _ =>
    match key.text?.bind e.member? with
    | some m => return m
    | Option.none => throw (.missingKey key)
  | _, _ => throw (.misuse (.notIndexable container.longTypeName))

def withItem (container key v : Value) : Except Fault Value := do
  match container with
  | dict id items =>
    key.needHashable
    return dict id (Table.put items key v)
  | list id xs =>
    match key.int? with
    | Option.none => throw (.misuse (.badIndex "list" key.longTypeName))
    | some n =>
      if !fitsWord n then throw key.beyondIndices
      match placeOf? xs.length n with
      | some i => return list id (xs.set i v)
      | Option.none => throw (.outOfRange "list assignment")
  | _ => throw (.misuse (.notAssignable container.longTypeName))

def entryOf (index : Nat) (v : Value) : Except Fault (Value × Value) :=
  match v.elements? with
  | some [k, x] => .ok (k, x)
  | some xs => .error (.badValue (.entryLength index xs.length))
  | Option.none =>
    told ("cannot convert dictionary update sequence element #" ++ toString index ++ " to a sequence")

def toTable (v : Value) : Except Fault Table :=
  match v with
  | dict _ items => .ok items
  | _ =>
    match v.elements? with
    | some xs => do
      let entries ← xs.zipIdx.mapM fun (x, i) => entryOf i x
      needAllHashable (Table.keys entries)
      return Table.ofList entries
    | Option.none => .error (.misuse (.notIterable v.longTypeName))

end Value

end Lifecycle
