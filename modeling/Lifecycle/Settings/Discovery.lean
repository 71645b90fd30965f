import Lifecycle.Settings.Basic
import Lifecycle.Value.Attribute

namespace Lifecycle

def configFileName : String := "statetransit.toml"

def configVariable : String := "STATETRANSIT_CONFIG"

namespace Surroundings

def isFile (s : Surroundings) (p : Path) : Except Fault Bool := Files.isFile s.files s.cwd p

def existing? (s : Surroundings) (p : Path) : Except Fault (Option Path) := do
  return if ← s.isFile p then some p else none

def firstConfig? (s : Surroundings) : List Place → Except Fault (Option Path)
  | [] => .ok none
  | directory :: rest => do
    match ← s.existing? (Place.path (directory ++ [configFileName])) with
    | some p => return some p
    | none => s.firstConfig? rest

def nearestConfig? (s : Surroundings) (here : Place) : Except Fault (Option Path) :=
  s.firstConfig? here.ancestors

inductive Origin where
  | here
  | path (p : Path)
  /-- Something that cannot be looked from. -/
  | value (v : Value)

def Origin.place (cwd : Place) : Origin → Except Fault Place
  | here => .ok cwd
  | path p => if p.hasNull then .error (.badValue .nullInPath) else .ok (p.resolve cwd)
  | value v => (v.requireAttribute "resolve").map fun _ => cwd

/-- The file a variable names, if it is set to something; else the nearest one above the origin. -/
def findConfig? (s : Surroundings) (origin : Origin) : Except Fault (Option Path) :=
  match s.valueOf? configVariable with
  | some written => if written = "" then search else s.existing? (Path.ofText written)
  | none => search
where
  search := do s.nearestConfig? (← origin.place s.cwd)

end Surroundings

end Lifecycle
