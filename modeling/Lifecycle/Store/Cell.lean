import Lifecycle.Collection
import Lifecycle.Store.RealText

namespace Lifecycle

inductive Cell where
  | null
  | int (n : Int)
  | real (x : Binary64)
  | text (s : String)
  | blob (bs : List UInt8)
  deriving DecidableEq

inductive ColumnType where
  | int
  | text
  deriving DecidableEq

namespace Cell

/-- The cell a value is sent as: truth values as numbers, members as what they are. -/
def ofValue (v : Value) : Except Fault Cell :=
  match v with
  | .none => .ok null
  | .float x => .ok (real x)
  | .bytes bs => .ok (blob bs)
  | _ =>
    match v.text?, v.int? with
    | some s, _ => .ok (text s)
    | none, some n => if fitsWord n then .ok (int n) else .error (.numberTooLarge "SQLite INTEGER")
    | none, none => .error .unstorable

def toValue : Cell → Value
  | null => .none
  | int n => .int n
  | real x => .float x
  | text s => .text s
  | blob bs => .bytes bs

/-- Cells are equal as the values they hold; nothing equals an absent one. -/
def equals (a b : Cell) : Bool :=
  a ≠ null && b ≠ null && a.toValue.same b.toValue

def rank : Cell → Nat
  | null => 0
  | int _ | real _ => 1
  | text _ => 2
  | blob _ => 3

def toExact? : Cell → Option Exact
  | int n => some (Exact.ofInt n)
  | real x => x.toExact?
  | _ => none

/-- Cells in order: absent ones, numbers, texts by their characters, and bytes. -/
def le (a b : Cell) : Bool :=
  if a.rank ≠ b.rank then a.rank < b.rank
  else match a, b with
    | text s, text t => s ≤ t
    | blob bs, blob cs => bs ≤ cs
    | real (.infinite negative), _ => negative || a = b
    | _, real (.infinite negative) => !negative
    | _, _ =>
      match a.toExact?, b.toExact? with
      | some x, some y => x.le y
      | _, _ => true

def wholeReal (x : Binary64) : Cell :=
  match x.toExact? with
  | some e => if e.isWhole && e.num.natAbs < twoTo 63 then int e.num else real x
  | none => real x

def number? (s : String) : Option Cell :=
  let isBlank (c : Char) := c = ' ' || ('\t' ≤ c && c ≤ '\r')
  let cs := ((s.toList.dropWhile isBlank).reverse.dropWhile isBlank).reverse
  let (negative, cs) := Document.signed cs
  let whole := cs.takeWhile Char.isDigit
  let rest := cs.dropWhile Char.isDigit
  let (fraction, rest) := match rest with
    | '.' :: r => (r.takeWhile Char.isDigit, r.dropWhile Char.isDigit)
    | _ => ([], rest)
  let isWhole := fraction.isEmpty && rest.isEmpty && !cs.contains '.'
  let exponent? := match rest with
    | [] => some 0
    | e :: r =>
      let (down, ds) := Document.signed r
      if (e = 'e' || e = 'E') && !ds.isEmpty && ds.all Char.isDigit then
        some (Document.signedInt down (RealText.exponent ds))
      else none
  if whole.isEmpty && fraction.isEmpty then none
  else exponent?.map fun exponent =>
    let n := Document.signedInt negative (Document.numeral 10 whole)
    if isWhole && fitsWord n then int n
    else wholeReal (RealText.read negative whole fraction exponent)

/-- What a column makes of a cell: numbers of texts that spell them, or texts of numbers. -/
def conform (t : ColumnType) (c : Cell) : Cell :=
  match t, c with
  | .int, text s => (number? s).getD c
  | .int, real x => wholeReal x
  | .text, int n => text (toString n)
  | .text, real x => text (RealText.write x)
  | _, c => c

theorem conform_null (t : ColumnType) : conform t null = null := by cases t <;> rfl

end Cell

end Lifecycle
