import Lifecycle.Document.JsonText
import Lifecycle.Log.Hierarchy
import Lifecycle.Text.Lines

namespace Lifecycle.Log

def padded (width : Nat) (s : String) : String :=
  s ++ String.ofList (List.replicate (width - s.length) ' ')

def keywordText (v : Value) : String :=
  match v with
  | .text s =>
    if s.any fun c => [' ', '\t', '=', '\r', '\n', '"', '\''].contains c then v.repr else s
  | _ => v.repr

def shownLogger (e : Event) : String := if e.logger = "" then "root" else e.logger

/-- Keywords that would stand in the place of the event's own fields give way to them. -/
def ownKeywords (e : Event) : List (String × Value) :=
  e.keywords.filter fun k => !(["event", "level", "logger", "timestamp"].contains k.1)

def byName (a b : String × Value) : Bool := a.1 ≤ b.1

def placedNames : List String := ["logger_name", "stack", "exception", "exc_info"]

def something? (name : String) (keywords : List (String × Value)) : Option Value :=
  match field? name keywords with
  | some .none => none
  | found => found

def withoutBlanksAtEnd (s : String) : String :=
  String.ofList (s.toList.reverse.dropWhile (· = ' ')).reverse

/-- The first line: time, level, message and logger in columns, then the keywords by name. -/
def consoleHead (time : String) (e : Event) : String :=
  let keywords := ownKeywords e
  let second := match field? "logger_name" keywords with
    | some v => " [" ++ v.display ++ "]"
    | none => ""
  let others := (keywords.filter fun k => !(placedNames.contains k.1)).mergeSort byName
  withoutBlanksAtEnd (time ++ " [" ++ padded 9 e.level.name ++ "] " ++ padded 30 e.message ++ " [" ++
    shownLogger e ++ "]" ++ second ++
    String.join (others.map fun (n, v) => " " ++ n ++ "=" ++ keywordText v))

/-- What follows the first line: the calls that led to the event, and a failure that was told of, with a
rule between them. -/
def consoleTail (e : Event) : String :=
  let keywords := ownKeywords e
  let told := ((field? "exc_info" keywords).map Value.truth).getD false
  let failure := something? "exception" keywords
  let calls := match something? "stack" keywords with
    | some v =>
      "\n" ++ v.display ++
        (if told || failure.isSome then
          "\n\n" ++ String.ofList (List.replicate 79 '=') ++ "\n" else "")
    | none => ""
  calls ++ match told, failure with
    | false, some v => "\n" ++ v.display
    | _, _ => ""

def jsonLine (time : String) (e : Event) : String :=
  let failure := if e.tellsFailure then [("exc_info", Value.list 0 [.none, .none, .none])] else []
  let fields := ownKeywords e ++ failure ++ [("event", .text e.message),
    ("level", .text e.level.name), ("logger", .text (shownLogger e)), ("timestamp", .text time)]
  Document.Json.render (.dict 0 (fields.map fun (n, v) => (.text n, v)))

/-- What an event becomes: an entry in one of the two forms, or, before any set-up, its bare message. -/
inductive Line where
  | json (e : Event)
  | console (e : Event)
  | bare (e : Event)

def Line.texts (time : String) : Line → List String
  | json e => [jsonLine time e]
  | console e => Text.splitLines (consoleHead time e ++ consoleTail e ++ "\n")
  | bare e =>
    Text.splitLines (e.message ++ "\n") ++ if e.tellsFailure then ["NoneType: None"] else []

def Form.line : Form → Event → Line
  | json => .json
  | console => .console

/-- Where events go: how the loggers are set up, and the entries written so far. -/
structure Sink where
  setup : Hierarchy := {}
  lines : List Line := []

namespace Sink

def configure (k : Sink) (s : Setup) : Sink := { k with setup := k.setup.configure s }

/-- The entries of one event: one for each handler that it comes to. Where there is none at all, a
warning and what is graver is written all the same. -/
def linesOf (h : Hierarchy) (e : Event) : List Line :=
  if h.reaches e.logger e.level then
    match h.handlers e.logger with
    | [] => if e.front = .plain ∧ Level.warning.rank ≤ e.level.rank then [.bare e] else []
    | forms => forms.map fun form => form.line e
  else []

def write (k : Sink) (e : Event) : Sink := { k with lines := k.lines ++ linesOf k.setup e }

def levels (k : Sink) : List Nat :=
  let own := fun name => ((k.setup.logger name).level.map Level.rank).getD 0
  [own topName, own libraryName, own databaseName, (k.setup.logger topName).handlers.length]

end Sink

end Lifecycle.Log
