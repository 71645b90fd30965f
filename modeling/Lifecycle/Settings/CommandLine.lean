import Lifecycle.Settings.Layer

/-!
Settings given as command line arguments. They are read into texts by setting, which then count like
variables whose names begin with nothing and have a point before a leaf of the section.
-/

namespace Lifecycle

/-- How arguments name settings, what may be left out, and what happens to those that are none. -/
structure CommandLine where
  /-- What stands before every name. -/
  start : String := ""
  hyphens : Bool := false
  /-- Whether the section can be given as a whole. -/
  wholeSection : Bool := true
  noneText : String := "null"
  /-- Whether truth values are given by name alone. -/
  switches : Bool := false
  skipsUnknown : Bool := false
  exits : Bool := true

namespace CommandLine

def settingNames (c : CommandLine) : List String :=
  ["config_path", "verbose", "log_json"] ++ (if c.wholeSection then ["validator"] else []) ++
    Environment.leafNames.map ("validator." ++ ·)

def truthNames : List String := ["verbose", "log_json", "validator.required"]

/-- A way to give a setting: the argument, and the text it stands for if it takes no other. -/
structure Choice where
  argument : String
  setting : String
  fixed : Option String
  label : String

def choicesFor (c : CommandLine) (setting : String) : List Choice :=
  let name := c.start ++ (if c.hyphens then setting.replace "_" "-" else setting)
  if c.switches && truthNames.contains setting then
    let label := "--" ++ name ++ "/--no-" ++ name
    [⟨"--" ++ name, setting, some "true", label⟩, ⟨"--no-" ++ name, setting, some "false", label⟩]
  else [⟨"--" ++ name, setting, none, "--" ++ name⟩]

def choice? (c : CommandLine) (argument : String) : Option Choice :=
  (c.settingNames.flatMap c.choicesFor).find? fun x => x.argument = argument

def fail {α : Type} (c : CommandLine) (message : String) : Except Fault α :=
  .error (if c.exits then .exit 2 else .badArguments ("error parsing CLI: " ++ message))

def parts (argument : String) : String × Option String :=
  match Search.splitFirst? ['='] argument.toList with
  | some (name, text) => (String.ofList name, some (String.ofList text))
  | none => (argument, none)

/-- A number below zero is a text like any other. -/
def isNegativeNumber (cs : List Char) : Bool :=
  match cs with
  | '-' :: rest =>
    let fraction := (rest.dropWhile Char.isDigit).drop 1
    rest.all Char.isDigit && !rest.isEmpty ||
      (rest.dropWhile Char.isDigit).head? = some '.' && !fraction.isEmpty && fraction.all Char.isDigit
  | _ => false

def isText (c : CommandLine) (argument : String) : Bool :=
  !argument.startsWith "-" || argument = "-" ||
    ((c.choice? (parts argument).1).isNone && !(["-h", "--help"].contains argument) &&
      (isNegativeNumber argument.toList || argument.contains ' '))

def read (c : CommandLine) : List String → Except Fault (List (String × String) × List String)
  | [] => .ok ([], [])
  | argument :: rest => do
    let (name, text) := parts argument
    if ["-h", "--help"].contains argument then throw (.exit 0)
    match if c.isText argument then none else c.choice? name with
    | none =>
      let (known, unknown) ← read c rest
      return (known, argument :: unknown)
    | some x =>
      match x.fixed, text with
      | some _, some text =>
        c.fail ("argument " ++ x.label ++ ": ignored explicit argument " ++ Text.quoted text)
      | some fixed, none =>
        let (known, unknown) ← read c rest
        return ((x.setting, fixed) :: known, unknown)
      | none, some text =>
        let (known, unknown) ← read c rest
        return ((x.setting, text) :: known, unknown)
      | none, none =>
        match rest with
        | [] => c.fail ("argument " ++ x.label ++ ": expected one argument")
        | text :: rest =>
          if !c.isText text then
            c.fail ("argument " ++ x.label ++ ": expected one argument")
          let (known, unknown) ← read c rest
          return ((x.setting, text) :: known, unknown)

def reading (c : CommandLine) : Environment.Reading where
  source := "CliSettingsSource"
  namePrefix := some ""
  exact := true
  delimiter := "."
  noneText := some c.noneText

def layer (c : CommandLine) (arguments : List String) : Except Fault Layer := do
  let (known, unknown) ← c.read arguments
  if !unknown.isEmpty && !c.skipsUnknown then
    c.fail ("unrecognized arguments: " ++ String.intercalate " " unknown)
  Environment.layer c.reading known

end CommandLine

end Lifecycle
