import Lifecycle.Fault
import Lifecycle.Text.Search

namespace Lifecycle

/-- A path as written: its leading slashes and its parts, without empty ones and single dots. -/
structure Path where
  slashes : Nat
  parts : List String
  deriving DecidableEq

namespace Path

def ofText (s : String) : Path where
  slashes := match (s.toList.takeWhile (· = '/')).length with
    | 0 => 0
    | 2 => 2
    | _ => 1
  parts := ((Search.splitAll ['/'] s.toList).map String.ofList).filter fun part =>
    part ≠ "" ∧ part ≠ "."

/-- The path that is nowhere but here is a dot. -/
def toText (p : Path) : String :=
  if p.slashes = 0 && p.parts.isEmpty then "."
  else String.ofList (List.replicate p.slashes '/') ++ String.intercalate "/" p.parts

def isAbsolute (p : Path) : Bool := p.slashes ≠ 0

def hasNull (p : Path) : Bool := p.parts.any fun part => part.contains '\x00'

end Path

/-- A directory, by the names that lead to it from the top. -/
abbrev Place := List String

def Place.path (place : Place) : Path := ⟨1, place⟩

inductive FileNode where
  | directory
  | file (text : String)

/-- What lies where. A directory is there if it is listed or if something lies in it. -/
abbrev Files := List (Place × FileNode)

namespace Files

def isDirectory (fs : Files) (place : Place) : Bool :=
  place.isEmpty || fs.any fun (p, node) =>
    match node with
    | .directory => place.isPrefixOf p
    | .file _ => place.isPrefixOf p && p ≠ place

def fileAt? (fs : Files) (place : Place) : Option String :=
  (fs.find? fun f => f.1 = place).bind fun f =>
    match f.2 with
    | .file text => some text
    | .directory => none

def put (fs : Files) (place : Place) (node : FileNode) : Files :=
  fs.filter (fun f => f.1 ≠ place) ++ [(place, node)]

inductive Trail where
  | leads (place : Place)
  | lost
  /-- A name is longer than any can be in a directory. -/
  | overlong
  deriving DecidableEq

/-- How many bytes a name in a directory may have, and a whole path less one. -/
def nameLimit : Nat := 255

def pathLimit : Nat := 4096

/-- Where a path leads from a directory, step by step; two dots lead up from a directory that is
there. -/
def follow (fs : Files) (here : Place) : List String → Trail
  | [] => .leads here
  | part :: rest =>
    if !isDirectory fs here then .lost
    else if nameLimit < part.utf8ByteSize then .overlong
    else if part = ".." then follow fs here.dropLast rest
    else follow fs (here ++ [part]) rest

def start (cwd : Place) (p : Path) : Place := if p.isAbsolute then [] else cwd

/-- The text of the regular file at a path, if there is one. A path that is too long to be followed is a
fault, but one with a null character in it just leads nowhere. -/
def read? (fs : Files) (cwd : Place) (p : Path) : Except Fault (Option String) :=
  if p.hasNull then .ok none
  else if pathLimit ≤ p.toText.utf8ByteSize then .error (.longPath p.toText)
  else match follow fs (start cwd p) p.parts with
    | .leads place => .ok (fileAt? fs place)
    | .lost => .ok none
    | .overlong => .error (.longPath p.toText)

def isFile (fs : Files) (cwd : Place) (p : Path) : Except Fault Bool :=
  (read? fs cwd p).map Option.isSome

end Files

/-- Where a path leads by its text alone, whether or not anything is there. -/
def Path.resolve (cwd : Place) (p : Path) : Place :=
  p.parts.foldl (fun here part => if part = ".." then here.dropLast else here ++ [part])
    (Files.start cwd p)

def Place.ancestors (place : Place) : List Place :=
  (List.range (place.length + 1)).map fun up => place.take (place.length - up)

end Lifecycle
