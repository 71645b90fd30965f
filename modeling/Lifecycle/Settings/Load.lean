import Lifecycle.Document.Toml.Document
import Lifecycle.Settings.Discovery
import Lifecycle.Settings.Overrides

namespace Lifecycle

def documentLayer (s : Surroundings) (path : Option Path) : Except Fault Layer := do
  let some p := path | return []
  let some text ← Files.read? s.files s.cwd p | return []
  match Document.Toml.read text with
  | .ok t => return t
  | .error .malformed => throw (.badDocument p.toText)
  | .error (.longNumber digits) => throw (.badValue (.longNumber digits))
  | .error .tooDeep => throw .tooDeep

namespace Settings

def leaf {α : Type} (t : Layer) (path : List String) (name : String) (default : α)
    (coerce : Value → Except IssueKind α) : Checked α :=
  match Table.lookup? t (.text name) with
  | some v => Checked.ofExcept ((path ++ [name]).map .name) (coerce v)
  | none => Checked.ok default

def checkValidator (t : Layer) : Checked ValidatorDefaults :=
  let d : ValidatorDefaults := {}
  let name := leaf t ["validator"] "name" d.name Coercion.text
  let message := leaf t ["validator"] "message" d.message Coercion.text
  let required := leaf t ["validator"] "required" d.required Coercion.truth
  let absentToken := leaf t ["validator"] "absent_token" d.absentToken Coercion.text
  (((name.both message).both required).both absentToken).map fun (((n, m), r), a) =>
    ⟨n, m, r, a⟩

def checkSection (t : Layer) : Checked ValidatorDefaults :=
  match Table.lookup? t (.text "validator") with
  | none => Checked.ok {}
  | some (.dict _ below) => checkValidator below
  | some _ => Checked.failed [Issue.at "validator" .notSection]

def coercePath (v : Value) : Except IssueKind (Option Path) :=
  match v, v.text? with
  | .none, _ => .ok none
  | _, some s => .ok (some (Path.ofText s))
  | _, none => .error .notPath

def unknownNames (t : Layer) : List Issue :=
  t.filterMap fun (k, _) =>
    match k with
    | .text name => if knownNames.contains name then none else some (Issue.at name .unexpected)
    | _ => none

def check (configPath : Checked (Option Path)) (t : Layer) : Checked Settings :=
  let verbose := leaf t [] "verbose" false Coercion.truth
  let logJson := leaf t [] "log_json" false Coercion.truth
  ((((configPath.both verbose).both logJson).both (checkSection t)).map
    fun (((p, v), l), d) => { configPath := p, verbose := v, logJson := l, validator := d }).also
    (unknownNames t)

/-- The layers from the lowest up: the document, the variables, the overrides, the arguments. -/
def merge (document environment overrides arguments : Layer) : Layer :=
  Layer.overlay document (Layer.overlay environment (Layer.overlay overrides arguments))

/-- Settings from the layers of a document, of variables, of overrides and of arguments. The overrides
may bring sources of their own, which take the place of all layers. A path that is fixed gives way to
none but an argument's. -/
def fromLayers (s : Surroundings) (document : Option Path) (overrides : List (String × Value))
    (fixedPath : Option (Option Path)) : Except Fault Settings := do
  if ← replacesSources overrides then return {}
  let reading ← readingOf overrides
  let document ← documentLayer s document
  let arguments ← argumentLayer overrides
  let environment ← Environment.layer reading s.vars
  let t := merge document environment (overrideLayer overrides) arguments
  let configPath := match fixedPath, Table.lookup? arguments (.text "config_path") with
    | some path, none => Checked.ok path
    | _, _ => leaf t [] "config_path" none coercePath
  (check configPath t).result

def direct (s : Surroundings) (overrides : List (String × Value)) : Except Fault Settings :=
  fromLayers s none overrides none

def sourceFile? (s : Surroundings) (configPath : Value) (origin : Surroundings.Origin) :
    Except Fault (Option Path) :=
  if configPath.truth then
    match configPath, configPath.text? with
    | .bytes _, _ => .error (.misuse .bytesPath)
    | _, some _ => s.existing? (Path.ofText configPath.display)
    | _, none => .error (.misuse (.notAPath configPath.longTypeName))
  else s.findConfig? origin

def originOf (start : Option Path) (overrides : List (String × Value)) : Surroundings.Origin :=
  match field? "start" overrides, start with
  | some v, _ => if v.truth then .value v else .here
  | none, some p => .path p
  | none, none => .here

/-- Settings from all layers. The file's path is the only source of `configPath`. -/
def load (s : Surroundings) (configPath : Option String) (start : Option Path)
    (overrides : List (String × Value)) : Except Fault Settings := do
  needFreeNames "TransitSettings.load" ["cls"] overrides
  let given := (field? "config_path" overrides <|> configPath.map Value.text).getD .none
  let path ← sourceFile? s given (originOf start overrides)
  fromLayers s path (overrides.filter fun (n, _) => n ≠ "config_path" && n ≠ "start") (some path)

end Settings

end Lifecycle
