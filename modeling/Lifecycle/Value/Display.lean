import Lifecycle.Number.Shortest
import Lifecycle.Text.Quoted
import Lifecycle.Value.TypeOf

namespace Lifecycle

def commaSeparated (parts : List String) : String := String.intercalate ", " parts

def braced (inner : String) : String := "\x7b" ++ inner ++ "\x7d"

/-- Whether a class declares that a form of its records is the text that the type of texts makes of no
value, which is empty. -/
def declaresText (name : String) (attributes : List (String × Attribute)) : Bool :=
  match field? name attributes with
  | some (.plain (.type "str")) => true
  | _ => false

mutual

/-- The form a value has inside messages, from which it can be told what kind of value it is. -/
def Value.repr : Value → String
  | .none => "None"
  | .bool b => if b then "True" else "False"
  | .int n => toString n
  | .float x => x.toText
  | .text s => Text.quoted s
  | .bytes bs => Text.quotedBytes bs
  | .list _ xs => "[" ++ commaSeparated (reprs xs) ++ "]"
  | .tuple xs => tupleText (reprs xs)
  | .set _ frozen xs =>
    match frozen, reprs xs with
    | false, [] => "set()"
    | true, [] => "frozenset()"
    | false, parts => braced (commaSeparated parts)
    | true, parts => "frozenset(" ++ braced (commaSeparated parts) ++ ")"
  | .dict _ items => braced (commaSeparated (entryReprs items))
  | .range start stop step =>
    "range(" ++ toString start ++ ", " ++ toString stop ++
      (if step = 1 then "" else ", " ++ toString step) ++ ")"
  | .stream .. => "<generator object>"
  | .moment m => m.repr
  | .member (.mk e ..) name value =>
    "<" ++ e ++ "." ++ name ++ ": " ++ value.repr ++ ">"
  | .enumeration (.mk name ..) => "<enum " ++ Text.quoted name ++ ">"
  | .type name =>
    "<class '" ++ (if name = "SimpleNamespace" then "types." ++ name else name) ++ "'>"
  | .owner (.mk _ name _) => "<class 'app." ++ name ++ "'>"
  | .record _ (.mk _ name attributes) fields =>
    if declaresText "__repr__" attributes then ""
    else name ++ "(" ++ commaSeparated (fieldReprs fields) ++ ")"
  | .bundle fields => "namespace(" ++ commaSeparated (fieldReprs fields) ++ ")"
  | .row columns => tupleText (columnReprs columns)
  | .sealed _ "Opaque" label => "<opaque " ++ label ++ ">"
  | .sealed _ _ label => label
  | .hook (.mk _ name _) => "<hook " ++ name ++ ">"
  | .provider _ p => p.repr
  | .domain _ d => d.repr
  | .matcher (.mk pairs _) =>
    let inner := match reprs pairs with
      | [] => "frozenset()"
      | parts => "frozenset(" ++ braced (commaSeparated parts) ++ ")"
    "TransitionMatcher(pairs=" ++ inner ++ ")"
  | .strategy _ s => s.repr
  | .changeset (.mk _ data changes schema errors) =>
    "Changeset(data=" ++ data.repr ++ ", changes=" ++ changes.repr ++ ", schema=" ++ schema.repr ++
      ", errors=[" ++ commaSeparated (errorReprs errors) ++ "])"
  | .fieldError e => e.repr
  | .method kind owner name => "<" ++ kind ++ " " ++ name ++ " of " ++ owner.repr ++ ">"

def reprs : List Value → List String
  | [] => []
  | x :: xs => x.repr :: reprs xs

def entryReprs : List (Value × Value) → List String
  | [] => []
  | (k, v) :: items => (k.repr ++ ": " ++ v.repr) :: entryReprs items

def fieldReprs : List (String × Value) → List String
  | [] => []
  | (n, v) :: fields => (n ++ "=" ++ v.repr) :: fieldReprs fields

def columnReprs : List (String × Value) → List String
  | [] => []
  | (_, v) :: columns => v.repr :: columnReprs columns

def FieldError.repr : FieldError → String
  | .mk field template keys =>
    "FieldError(field=" ++ Text.quoted field ++ ", template=" ++ Text.quoted template ++ ", keys=" ++
      braced (commaSeparated (namedEntryReprs keys)) ++ ")"

def errorReprs : List FieldError → List String
  | [] => []
  | e :: es => e.repr :: errorReprs es

def namedEntryReprs : List (String × Value) → List String
  | [] => []
  | (n, v) :: keys => (Text.quoted n ++ ": " ++ v.repr) :: namedEntryReprs keys

def Provider.repr : Provider → String
  | .enumeration (.mk name ..) => "EnumProvider(" ++ name ++ ")"
  | .mapping items => "MappingProvider(" ++ braced (commaSeparated (entryReprs items)) ++ ")"
  | .custom name .. => "<provider " ++ name ++ ">"

def Domain.repr : Domain → String
  | .flat states => "FlatDomain([" ++ commaSeparated (reprs states) ++ "])"
  | .dual provider _ => "DualDomain(" ++ provider.repr ++ ")"

def Strategy.repr : Strategy → String
  | .recordMethod name => "RecordMethod(name=" ++ name.repr ++ ")"
  | .matcher m => "MatcherStrategy(matcher=" ++ m.repr ++ ")"
  | .predicate f => "Predicate(func=" ++ f.repr ++ ")"
  | .external target operation extra =>
    "ExternalOperation(target=" ++ target.repr ++ ", operation=" ++ operation.repr ++
      ", extra_args=" ++ extra.repr ++ ")"
  | .custom _ => "<strategy Custom>"

def tupleText : List String → String
  | [part] => "(" ++ part ++ ",)"
  | parts => "(" ++ commaSeparated parts ++ ")"

end

/-- The plain form a reader sees: texts as they are, members by name or by what they are. Whether a value
comes to be shown in it tells `Value.shown`. -/
def Value.display : Value → String
  | .text s => s
  | .moment m => m.toText
  | .member (.mk e kind _ _) name value =>
    match kind, value with
    | .textual, .text s => s
    | .numeric, .int n => toString n
    | _, _ => e ++ "." ++ name
  | .record id c fields =>
    if declaresText "__str__" c.attributes then "" else (Value.record id c fields).repr
  | v => v.repr

end Lifecycle
