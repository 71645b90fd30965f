import Lifecycle.Text.Encoding
import Lifecycle.Value.Display

namespace Lifecycle

inductive Side where
  | source
  | target
  deriving DecidableEq

def Side.name : Side → String
  | source => "from"
  | target => "to"

inductive IssueKind where
  | notTruth
  | unreadableTruth
  | notText
  | undecodableText
  | notMapping
  | notSection
  | notPath
  | missing
  | unexpected
  | frozen
  deriving DecidableEq

namespace IssueKind

def code : IssueKind → String
  | notTruth => "bool_type"
  | unreadableTruth => "bool_parsing"
  | notText => "string_type"
  | undecodableText => "string_unicode"
  | notMapping => "dict_type"
  | notSection => "model_type"
  | notPath => "path_type"
  | missing => "missing"
  | unexpected => "extra_forbidden"
  | frozen => "frozen_instance"

def message : IssueKind → String
  | notTruth => "Input should be a valid boolean"
  | unreadableTruth => "Input should be a valid boolean, unable to interpret input"
  | notText => "Input should be a valid string"
  | undecodableText =>
    "Input should be a valid string, unable to parse raw data as a unicode string"
  | notMapping => "Input should be a valid dictionary"
  | notSection => "Input should be a valid dictionary or instance of ValidatorConfig"
  | notPath => "Input is not a valid path for <class 'pathlib.Path'>"
  | missing => "Field required"
  | unexpected => "Extra inputs are not permitted"
  | frozen => "Instance is frozen"

end IssueKind

inductive IssueStep where
  | name (s : String)
  | index (n : Int)
  deriving DecidableEq

structure Issue where
  path : List IssueStep
  kind : IssueKind
  deriving DecidableEq

def Issue.at (field : String) (kind : IssueKind) : Issue := ⟨[.name field], kind⟩

inductive Misuse where
  | unhashable (type : String)
  | notIterable (type : String)
  | notContainer (type : String)
  | notMapping (type : String)
  | notCallable (type : String)
  | notIndexable (type : String)
  | notAssignable (type : String)
  | badIndex (container type : String)
  | notSummable (v : Value)
  | notAText (v : Value)
  | attributeName (type : String)
  | noArguments (callee : String)
  | argumentCount (callee : String) (least most given : Nat)
  | missingArgument (callee argument : String)
  | repeatedArgument (callee argument : String)
  | keywordName
  | memberRepeated (name : String) (v : Value)
  | extendsEnumeration (v : Value) (enumeration : String)
  | notAPath (type : String)
  | bytesPath
  /-- Any other misuse, in the words it is told in. -/
  | told (text : String)
  deriving Inhabited

inductive BadValue where
  | numeral (base : Nat) (written : Value)
  | longNumber (digits : Nat)
  | baseRange
  | byteRange
  | zeroStep
  | notAMember (v : Value) (enumeration : String)
  | entryLength (index length : Nat)
  | unpacked (expected given : Nat)
  | nullInPath
  | nullInName
  | raised (message : String)
  /-- Any other such value, in the words it is told in. -/
  | told (text : String)

/-- Every way an operation can fail, by cause. -/
inductive Fault where
  | badDocument (path : String)
  | tooDeep
  | notADomain (on : Value)
  | sharedAlternate (alternate first second : Value)
  | notRules (rules : Value)
  | notAnEntry (entry : Value)
  | unknownState (source target : Value)
  | notPrimary (source target : Value) (side : Side)
  | endlessExpansion
  | notAStrategy (spec : Value)
  | notAnExternal (spec : Value)
  | noQuery (label : String) (name : Value)
  | invalidChangeset (errors : List (String × List String))
  | staleRecord (table key : String) (value : Value)
  | brokenConstraint
  | unknownColumn
  | unstorable
  | numberTooLarge (place : String)
  | infiniteNumber
  | rejected (issues : List Issue)
  | unreadableText (field source : String)
  | unreachableValue (field source : String)
  | badArguments (message : String)
  | exit (code : Nat)
  | longPath (path : String)
  | misuse (m : Misuse)
  | badValue (b : BadValue)
  | unknownEncoding (name : String)
  | unknownHandling (name : String)
  | undecodable (encoding : Text.Encoding) (gap : Text.Gap)
  | unencodable (encoding : Text.Encoding) (excess : Text.Excess)
  | missingKey (key : Value)
  | outOfRange (container : String)
  /-- Any other place that a sequence has not got, in the words it is told in. -/
  | noPlace (text : String)
  | overflow (text : String)
  | zeroDivision (text : String)
  | noAttribute (subject name : String)
  | noMember (name : String)
  | noColumn (name : String)
  | noSetter (name type : String)
  | notWritable (name type : String)
  | readOnly (type name : String)
  | assignsFrozen (field : String)
  | deletesFrozen (field : String)

namespace Misuse

def argumentsText (least most given : Nat) : String :=
  (if least = most then toString most else "from " ++ toString least ++ " to " ++ toString most) ++
    (if most = 1 then " positional argument but " else " positional arguments but ") ++
    toString given ++ (if given = 1 then " was given" else " were given")

def message : Misuse → String
  | unhashable t => "unhashable type: '" ++ t ++ "'"
  | notIterable t => "'" ++ t ++ "' object is not iterable"
  | notContainer t => "argument of type '" ++ t ++ "' is not iterable"
  | notMapping t => "'" ++ t ++ "' object is not a mapping"
  | notCallable t => "'" ++ t ++ "' object is not callable"
  | notIndexable t => "'" ++ t ++ "' object is not subscriptable"
  | notAssignable t => "'" ++ t ++ "' object does not support item assignment"
  | badIndex "str" t => "string indices must be integers, not '" ++ t ++ "'"
  | badIndex c t => c ++ " indices must be integers or slices, not " ++ t
  | notSummable (.bytes _) => "can't concat int to bytes"
  | notSummable v =>
    match v.text?, v with
    | some _, _ | none, .list .. | none, .tuple _ =>
      let t := if v.text?.isSome then "str" else v.typeName.name
      "can only concatenate " ++ t ++ " (not \"int\") to " ++ t
    | none, _ => "unsupported operand type(s) for +: '" ++ v.longTypeName ++ "' and 'int'"
  | notAText v => v.repr ++ " is not a string"
  | attributeName t => "attribute name must be string, not '" ++ t ++ "'"
  | noArguments c => c ++ "() takes no arguments"
  | argumentCount c least most given => c ++ "() takes " ++ argumentsText least most given
  | missingArgument c a => c ++ "() missing 1 required positional argument: '" ++ a ++ "'"
  | repeatedArgument c a => c ++ "() got multiple values for argument '" ++ a ++ "'"
  | keywordName => "keywords must be strings"
  | memberRepeated name v => Text.quoted name ++ " already defined as " ++ v.repr
  | extendsEnumeration v e =>
    "<enum " ++ v.repr ++ "> cannot extend <enum " ++ Text.quoted e ++ ">"
  | notAPath t => "expected str, bytes or os.PathLike object, not " ++ t
  | bytesPath =>
    "argument should be a str object or an os.PathLike object returning str, not <class 'bytes'>"
  | told text => text

end Misuse

namespace BadValue

def message : BadValue → String
  | numeral base v =>
    "invalid literal for int() with base " ++ toString base ++ ": " ++
      String.ofList (v.repr.toList.take 200)
  | longNumber digits =>
    "Exceeds the limit (4300 digits) for integer string conversion: value has " ++
      toString digits ++ " digits; use sys.set_int_max_str_digits() to increase the limit"
  | baseRange => "int() base must be >= 2 and <= 36, or 0"
  | byteRange => "byte must be in range(0, 256)"
  | zeroStep => "range() arg 3 must not be zero"
  | notAMember v e => v.repr ++ " is not a valid " ++ e
  | entryLength index length =>
    "dictionary update sequence element #" ++ toString index ++ " has length " ++ toString length ++
      "; 2 is required"
  | unpacked expected given =>
    if given < expected then
      "not enough values to unpack (expected " ++ toString expected ++ ", got " ++ toString given ++ ")"
    else "too many values to unpack (expected " ++ toString expected ++ ")"
  | nullInPath => "embedded null byte"
  | nullInName => "embedded null character"
  | raised message => message
  | told text => text

end BadValue

namespace Fault

def unhashable (type : String) : Fault := .misuse (.unhashable type)

def raised (message : String) : Fault := .badValue (.raised message)

def errorsText (errors : List (String × List String)) : String :=
  braced (commaSeparated (errors.map fun e =>
    Text.quoted e.1 ++ ": [" ++ commaSeparated (e.2.map Text.quoted) ++ "]"))

def arrow (source target : Value) : String := source.repr ++ " => " ++ target.repr

def message : Fault → String
  | badDocument path => "Invalid TOML in " ++ path
  | tooDeep => "maximum recursion depth exceeded"
  | notADomain on =>
    "cannot create transition validator on " ++ on.label ++ " " ++ on.repr ++
      ", expected a collection of states, an Enum or a RepresentationProvider"
  | sharedAlternate alternate first second =>
    "alternate representation " ++ alternate.repr ++ " is shared by " ++ first.repr ++ " and " ++
      second.repr
  | notRules rules => "expected a mapping or pairs of rules, got " ++ rules.repr
  | notAnEntry entry => "expected a (source, target) rule entry, got " ++ entry.repr
  | unknownState source target => "unknown transition state in " ++ arrow source target
  | notPrimary source target side =>
    "invalid transition state, expected a primary state on the '" ++ side.name ++
      "' side, in: " ++ arrow source target
  | endlessExpansion => "the expansion of a wildcard reaches a wildcard state"
  | notAStrategy spec => "cannot validate transitions with " ++ spec.repr
  | notAnExternal spec =>
    "expected a (target, operation, extra_args) strategy, got " ++ spec.repr
  | noQuery label name =>
    label ++ " has no callable " ++ name.repr ++ " to validate transitions"
  | invalidChangeset errors => "changeset is invalid: " ++ errorsText errors
  | staleRecord table key value =>
    table ++ " row " ++ key ++ "=" ++ value.repr ++ " changed since it was read"
  | brokenConstraint => "a constraint of the table does not hold"
  | unknownColumn => "a change names a column that the table has not got"
  | unstorable => "a value cannot be stored"
  | numberTooLarge place => "Python int too large to convert to " ++ place
  | infiniteNumber => "cannot convert float infinity to integer"
  | rejected issues => commaSeparated (issues.map fun i => i.kind.message)
  | unreadableText field source =>
    "error parsing value for field \"" ++ field ++ "\" from source \"" ++ source ++ "\""
  | unreachableValue field source =>
    "error getting value for field \"" ++ field ++ "\" from source \"" ++ source ++ "\""
  | badArguments message => message
  | exit code => toString code
  | longPath path => "[Errno 36] File name too long: " ++ Text.quoted path
  | misuse m => m.message
  | badValue b => b.message
  | unknownEncoding name => "unknown encoding: " ++ name
  | unknownHandling name => "unknown error handler name " ++ Text.quoted name
  | undecodable encoding gap => gap.message encoding
  | unencodable encoding excess => excess.message encoding
  | missingKey key => key.repr
  | outOfRange container =>
    if container = "" then "index out of range" else container ++ " index out of range"
  | noPlace text | overflow text | zeroDivision text => text
  | readOnly type name => Text.quoted type ++ " object attribute " ++ Text.quoted name ++ " is read-only"
  | noAttribute subject name => subject ++ " has no attribute '" ++ name ++ "'"
  | noMember name => name
  | noColumn name => "Could not locate column in row for column '" ++ name ++ "'"
  | noSetter name type =>
    "property " ++ Text.quoted name ++ " of " ++ Text.quoted type ++ " object has no setter"
  | notWritable name type =>
    "attribute " ++ Text.quoted name ++ " of " ++ Text.quoted type ++ " objects is not writable"
  | assignsFrozen field => "cannot assign to field " ++ Text.quoted field
  | deletesFrozen field => "cannot delete field " ++ Text.quoted field

end Fault

end Lifecycle
