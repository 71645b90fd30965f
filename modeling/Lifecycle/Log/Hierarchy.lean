import Lifecycle.Collection
import Lifecycle.Log.Event

namespace Lifecycle.Log

/-- How events are written, and from which level on the library's own are. -/
structure Setup where
  verbose : Bool
  json : Bool
  deriving DecidableEq

inductive Form where
  | json
  | console
  deriving DecidableEq

/-- What a logger has of its own: a level, if one is set on it, and its handlers, by the forms in which
they write. -/
structure Logger where
  level : Option Level := none
  handlers : List Form := []
  deriving DecidableEq

def topName : String := ""

def libraryName : String := "statetransit"

def databaseName : String := "sqlalchemy"

/-- The loggers that have something of their own, by name, and whether structured loggers write through
them. Before any set-up two levels are there: that of the top logger and the database's. -/
structure Hierarchy where
  loggers : List (String × Logger) :=
    [(topName, { level := some .warning }), (databaseName, { level := some .warning })]
  structured : Bool := false

def beforeDots : List Char → List (List Char)
  | [] => []
  | c :: cs => (beforeDots cs).map (c :: ·) ++ if c = '.' then [[]] else []

/-- A logger and those above it, by name: what stands before each dot of its name, and the top one,
which also goes by a name. -/
def lineage (name : String) : List String :=
  if name = topName ∨ name = "root" then [topName]
  else name :: ((beforeDots name.toList).filter (· ≠ [])).map String.ofList ++ [topName]

namespace Hierarchy

def logger (h : Hierarchy) (name : String) : Logger := (field? name h.loggers).getD {}

def update (h : Hierarchy) (name : String) (f : Logger → Logger) : Hierarchy :=
  { h with loggers := putField h.loggers name (f (h.logger name)) }

def setLevel (h : Hierarchy) (name : String) (level : Level) : Hierarchy :=
  h.update name fun l => { l with level := some level }

def clearHandlers (h : Hierarchy) (name : String) : Hierarchy :=
  h.update name fun l => { l with handlers := [] }

def addHandler (h : Hierarchy) (name : String) (form : Form) : Hierarchy :=
  h.update name fun l => { l with handlers := l.handlers ++ [form] }

/-- The level from which on a logger writes: its own, or that of the nearest one above it that has one. -/
def level? (h : Hierarchy) (name : String) : Option Level :=
  (lineage name).findSome? fun n => (h.logger n).level

def handlers (h : Hierarchy) (name : String) : List Form :=
  (lineage name).flatMap fun n => (h.logger n).handlers

def reaches (h : Hierarchy) (name : String) (level : Level) : Bool :=
  match h.level? name with
  | some least => least.rank ≤ level.rank
  | none => true

end Hierarchy

namespace Setup

def form (s : Setup) : Form := if s.json then .json else .console

def libraryLevel (s : Setup) : Level := if s.verbose then .debug else .warning

end Setup

/-- Sets up anew: what handlers the top logger has give way to a single one, and the levels of the top
logger, the library's and the database's are set. -/
def Hierarchy.configure (h : Hierarchy) (s : Setup) : Hierarchy :=
  let h := { h with structured := true }
  let h := (h.clearHandlers topName).addHandler topName s.form
  ((h.setLevel topName .warning).setLevel libraryName s.libraryLevel).setLevel databaseName .warning

end Lifecycle.Log
