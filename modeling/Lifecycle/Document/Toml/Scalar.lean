import Lifecycle.Collection
import Lifecycle.Document.Scan

namespace Lifecycle.Document.Toml

def readDigits (isDigit : Char → Bool) : List Char → List Char × List Char
  | '_' :: d :: rest =>
    if isDigit d then
      let (ds, r) := readDigits isDigit rest
      (d :: ds, r)
    else ([], '_' :: d :: rest)
  | d :: rest =>
    if isDigit d then
      let (ds, r) := readDigits isDigit rest
      (d :: ds, r)
    else ([], d :: rest)
  | [] => ([], [])

def digits? (isDigit : Char → Bool) (cs : List Char) : Option (List Char × List Char) :=
  match cs with
  | d :: _ => if isDigit d then some (readDigits isDigit cs) else none
  | [] => none

def readBased (cs : List Char) : Option (Value × List Char) :=
  let read (base : Nat) (isDigit : Char → Bool) (rest : List Char) :=
    (digits? isDigit rest).map fun (ds, r) => (Value.int (numeral base ds), r)
  match cs with
  | '0' :: 'x' :: rest => read 16 isHexDigit rest
  | '0' :: 'o' :: rest => read 8 (fun c => '0' ≤ c && c ≤ '7') rest
  | '0' :: 'b' :: rest => read 2 (fun c => c = '0' || c = '1') rest
  | _ => none

def readFraction (cs : List Char) : List Char × List Char :=
  match cs with
  | '.' :: rest => (digits? Char.isDigit rest).getD ([], cs)
  | _ => ([], cs)

def readExponent (cs : List Char) : Option Int × List Char :=
  match cs with
  | e :: rest =>
    if e = 'e' || e = 'E' then
      let (negative, rest) := signed rest
      match digits? Char.isDigit rest with
      | some (ds, r) => (some (signedInt negative (numeral 10 ds)), r)
      | none => (none, cs)
    else (none, cs)
  | [] => (none, cs)

/-- A decimal number, where one starts; a leading zero stands alone. -/
def readDecimal? (cs : List Char) : Option (Except Flaw (Value × List Char)) :=
  let (negative, rest) := signed cs
  let whole? := match rest with
    | '0' :: r => some (['0'], r)
    | _ => digits? Char.isDigit rest
  whole?.map fun (whole, rest) =>
    let (fraction, rest) := readFraction rest
    let (exponent?, rest) := readExponent rest
    if fraction.isEmpty && exponent?.isNone then
      (wholeNumber negative whole).map fun n => (.int n, rest)
    else
      let (digits, power) := decimalFraction whole fraction (exponent?.getD 0)
      .ok (.float (Binary64.ofDecimal negative digits power), rest)

/-- An infinity, or what is no number. -/
def readBeyond (cs : List Char) : Option (Value × List Char) :=
  let (negative, rest) := signed cs
  ((after? "inf".toList rest).map fun r => (.float (.infinite negative), r)) <|>
    (after? "nan".toList rest).map fun r => (.nan 0, r)

def twoDigits? (low high : Nat) : List Char → Option (Nat × List Char)
  | a :: b :: rest =>
    let n := numeral 10 [a, b]
    if a.isDigit && b.isDigit && low ≤ n && n ≤ high then some (n, rest) else none
  | _ => none

def fourDigits? : List Char → Option (Nat × List Char)
  | a :: b :: c :: d :: rest =>
    if [a, b, c, d].all Char.isDigit then some (numeral 10 [a, b, c, d], rest) else none
  | _ => none

/-- A time of the day. Of a fraction of a second six digits count. -/
def readClock? (cs : List Char) : Option (Clock × List Char) := do
  let (hour, rest) ← twoDigits? 0 23 cs
  let ':' :: rest := rest | none
  let (minute, rest) ← twoDigits? 0 59 rest
  let ':' :: rest := rest | none
  let (second, rest) ← twoDigits? 0 59 rest
  let (ds, rest) := match rest with
    | '.' :: d :: r => if d.isDigit then (d :: r).span Char.isDigit else ([], rest)
    | _ => ([], rest)
  let fraction := numeral 10 (ds.take 6 ++ List.replicate (6 - ds.length) '0')
  return (⟨((hour * 60 + minute) * 60 + second) * 1000000 + fraction⟩, rest)

/-- The minutes that a zone is ahead, where one is given. -/
def readZone (cs : List Char) : Option Int × List Char :=
  match cs with
  | c :: rest =>
    if c = 'Z' || c = 'z' then (some 0, rest)
    else if c = '+' || c = '-' then
      match twoDigits? 0 23 rest with
      | some (hours, ':' :: r) =>
        match twoDigits? 0 59 r with
        | some (minutes, r) => (some (signedInt (c = '-') (hours * 60 + minutes)), r)
        | none => (none, cs)
      | _ => (none, cs)
    else (none, cs)
  | [] => (none, cs)

/-- A date of the calendar. One that has the form but is no day of it makes the inner result none. -/
def readDate? (cs : List Char) : Option (Option (Day × List Char)) := do
  let (year, rest) ← fourDigits? cs
  let '-' :: rest := rest | none
  let (month, rest) ← twoDigits? 1 12 rest
  let '-' :: rest := rest | none
  let (day, rest) ← twoDigits? 1 31 rest
  return if year ≠ 0 ∧ day ≤ daysInMonth year month then some (⟨year, month, day⟩, rest) else none

def readMoment? (cs : List Char) : Option (Option (Moment × List Char)) :=
  match readDate? cs with
  | some none => some none
  | some (some (date, rest)) =>
    match rest with
    | t :: r =>
      match if t = 'T' || t = 't' || t = ' ' then readClock? r else none with
      | some (time, r) =>
        let (ahead, r) := readZone r
        some (some (.dateTime date time ahead, r))
      | none => some (some (.date date, rest))
    | [] => some (some (.date date, rest))
  | none => (readClock? cs).map fun (time, rest) => some (.time time, rest)

def readScalar (cs : List Char) : Except Flaw (Value × List Char) :=
  match after? "true".toList cs, after? "false".toList cs with
  | some rest, _ => .ok (.bool true, rest)
  | _, some rest => .ok (.bool false, rest)
  | none, none =>
    match readMoment? cs, readBased cs, readDecimal? cs with
    | some result, _, _ => expected (result.map fun (m, rest) => (.moment m, rest))
    | none, some result, _ => .ok result
    | none, none, some result => result
    | none, none, none => expected (readBeyond cs)

end Lifecycle.Document.Toml
