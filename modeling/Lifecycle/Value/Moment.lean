namespace Lifecycle

def daysInMonth (year month : Nat) : Nat :=
  if month = 2 then
    if year % 4 = 0 ∧ (year % 100 ≠ 0 ∨ year % 400 = 0) then 29 else 28
  else if month = 4 ∨ month = 6 ∨ month = 9 ∨ month = 11 then 30
  else 31

def decimal (width n : Nat) : String :=
  let ds := (toString n).toList
  String.ofList (List.replicate (width - ds.length) '0' ++ ds)

structure Day where
  year : Nat
  month : Nat
  day : Nat

namespace Day

/-- How many days it is after the one before the first of year 1. -/
def number (d : Day) : Nat :=
  let past := d.year - 1
  let months := (List.range (d.month - 1)).foldl (fun n m => n + daysInMonth d.year (m + 1)) 0
  365 * past + past / 4 - past / 100 + past / 400 + months + d.day

def toText (d : Day) : String :=
  decimal 4 d.year ++ "-" ++ decimal 2 d.month ++ "-" ++ decimal 2 d.day

def parts (d : Day) : List Nat := [d.year, d.month, d.day]

end Day

/-- A time of the day, as millionths of a second since its start. -/
structure Clock where
  micros : Nat

namespace Clock

def hour (c : Clock) : Nat := c.micros / 3600000000

def minute (c : Clock) : Nat := c.micros / 60000000 % 60

def second (c : Clock) : Nat := c.micros / 1000000 % 60

def fraction (c : Clock) : Nat := c.micros % 1000000

def toText (c : Clock) : String :=
  decimal 2 c.hour ++ ":" ++ decimal 2 c.minute ++ ":" ++ decimal 2 c.second ++
    if c.fraction = 0 then "" else "." ++ decimal 6 c.fraction

def parts (c : Clock) : List Nat :=
  if c.fraction ≠ 0 then [c.hour, c.minute, c.second, c.fraction]
  else if c.second ≠ 0 then [c.hour, c.minute, c.second]
  else [c.hour, c.minute]

end Clock

/-- What a date, a time of the day or both of them are compared as: both with a zone are one instant,
however far that zone is ahead. -/
inductive MomentKind where
  | date
  | time
  | zoneless
  | instant
  deriving DecidableEq, Hashable, Ord

/-- A date, a time of the day or both, then with the minutes that the zone is ahead where one is given. -/
inductive Moment where
  | date (d : Day)
  | time (c : Clock)
  | dateTime (d : Day) (c : Clock) (ahead : Option Int)

namespace Moment

def kind : Moment → MomentKind
  | date _ => .date
  | time _ => .time
  | dateTime _ _ none => .zoneless
  | dateTime _ _ (some _) => .instant

def typeName : Moment → String
  | date _ => "date"
  | time _ => "time"
  | dateTime .. => "datetime"

/-- Where it lies among those of its kind. -/
def place : Moment → Int
  | date d => d.number
  | time c => c.micros
  | dateTime d c ahead => d.number * 86400000000 + c.micros - ahead.getD 0 * 60000000

def zoneText (ahead : Int) : String :=
  (if ahead < 0 then "-" else "+") ++ decimal 2 (ahead.natAbs / 60) ++ ":" ++
    decimal 2 (ahead.natAbs % 60)

def toText : Moment → String
  | date d => d.toText
  | time c => c.toText
  | dateTime d c ahead => d.toText ++ " " ++ c.toText ++ (ahead.map zoneText).getD ""

def zoneRepr (ahead : Int) : String :=
  if ahead = 0 then "datetime.timezone.utc"
  else "datetime.timezone(datetime.timedelta(" ++
    (if ahead < 0 then "days=-1, seconds=" ++ toString (86400 + 60 * ahead)
      else "seconds=" ++ toString (60 * ahead)) ++ "))"

def repr (m : Moment) : String :=
  let arguments := match m with
    | date d => d.parts.map toString
    | time c => c.parts.map toString
    | dateTime d c ahead => (d.parts ++ c.parts).map toString ++
        (ahead.map fun a => "tzinfo=" ++ zoneRepr a).toList
  "datetime." ++ m.typeName ++ "(" ++ String.intercalate ", " arguments ++ ")"

end Moment

end Lifecycle
