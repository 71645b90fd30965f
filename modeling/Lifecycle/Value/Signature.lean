import Lifecycle.Fault
import Lifecycle.Value.Contents

namespace Lifecycle

/-- A method of a declared type: the arguments it needs besides the value it belongs to, and those it
may be given as well. -/
structure Signature where
  name : String
  required : List String
  optional : List String := []
  /-- Whether it belongs to the type rather than to its values. -/
  ofType : Bool := false

namespace Signature

def accept (s : Signature) (type : String) (given : Nat) : Except Fault Unit :=
  let callee := type ++ "." ++ s.name
  let least := s.required.length + 1
  match s.required.drop given with
  | argument :: _ => .error (.misuse (.missingArgument callee argument))
  | [] =>
    if s.required.length + s.optional.length < given then
      .error (.misuse (.argumentCount callee least (least + s.optional.length) (given + 1)))
    else .ok ()

def ofProvider (made : String) : List Signature := [
  ⟨"__init__", [made], [], false⟩, ⟨"__repr__", [], [], false⟩,
  ⟨"representation_map", [], [], false⟩, ⟨"is_primary_type", ["value"], [], false⟩,
  ⟨"is_valid_primary", ["value"], [], false⟩]

def ofDomain (made : String) : List Signature := [
  ⟨"__init__", [made], [], false⟩, ⟨"__repr__", [], [], false⟩,
  ⟨"__contains__", ["value"], [], false⟩, ⟨"enumerate", [], [], false⟩,
  ⟨"concrete_pairs", ["from_", "to"], [], false⟩]

def ofRecord (required optional : List String) : List Signature := [
  ⟨"__init__", required, optional, false⟩, ⟨"__repr__", [], [], false⟩,
  ⟨"__eq__", ["other"], [], false⟩]

def ofFrozen (required optional : List String) : List Signature :=
  ofRecord required optional ++ [
    ⟨"__hash__", [], [], false⟩, ⟨"__setattr__", ["name", "value"], [], false⟩,
    ⟨"__delattr__", ["name"], [], false⟩]

def evaluate : Signature := ⟨"evaluate", ["changeset", "old", "new"], [], false⟩

def declared : String → List Signature
  | "TransitionMatcher" => ofFrozen ["pairs"] ["domain"] ++ [
    ⟨"compile", ["on", "rules"], [], true⟩, ⟨"allowed", ["from_", "to"], [], false⟩,
    ⟨"__call__", ["from_", "to"], [], false⟩, ⟨"__contains__", ["pair"], [], false⟩,
    ⟨"__iter__", [], [], false⟩, ⟨"__len__", [], [], false⟩, ⟨"__post_init__", [], [], false⟩]
  | "Changeset" => ofRecord ["data"] ["changes", "schema", "errors"] ++ [
    ⟨"change", ["data"], ["changes"], true⟩, ⟨"has_change", ["field"], [], false⟩,
    ⟨"get_original", ["field"], [], false⟩, ⟨"get_field", ["field"], [], false⟩,
    ⟨"add_error", ["field", "message"], [], false⟩, ⟨"errors_on", [], [], false⟩,
    ⟨"__post_init__", [], [], false⟩]
  | "FlatDomain" => ofDomain "states"
  | "DualDomain" => ofDomain "provider" ++ [⟨"alternate", ["primary"], [], false⟩]
  | "EnumProvider" => ofProvider "enum_cls"
  | "MappingProvider" => ofProvider "mapping"
  | "Provider" => ofProvider "name"
  | "RecordMethod" => evaluate :: ofFrozen ["name"] []
  | "MatcherStrategy" => evaluate :: ofFrozen ["matcher"] []
  | "Predicate" => evaluate :: ofFrozen ["func"] []
  | "ExternalOperation" => evaluate :: ofFrozen ["target", "operation"] ["extra_args"]
  | "Custom" => [evaluate]
  | _ => []

/-- The methods that enumerations have of their own, before those of texts and numbers. -/
def ofMembers (kind : EnumKind) : List Signature :=
  let common : List Signature := [⟨"__repr__", [], [], false⟩, ⟨"__dir__", [], [], false⟩,
    ⟨"__copy__", [], [], false⟩, ⟨"__deepcopy__", ["memo"], [], false⟩,
    ⟨"__reduce_ex__", ["proto"], [], false⟩, ⟨"_missing_", ["value"], [], true⟩]
  let named : List Signature :=
    [⟨"__str__", [], [], false⟩, ⟨"__format__", ["format_spec"], [], false⟩]
  match kind with
  | .textual | .numeric => common
  | .namedText => named ++ common
  | .plain => ⟨"__hash__", [], [], false⟩ :: named ++ common

def ofEnumerations : List Signature := [
  ⟨"__contains__", ["member"], [], false⟩, ⟨"__getitem__", ["name"], [], false⟩,
  ⟨"__iter__", [], [], false⟩, ⟨"__len__", [], [], false⟩, ⟨"__bool__", [], [], false⟩,
  ⟨"__reversed__", [], [], false⟩]

def find? (signatures : List Signature) (name : String) : Option Signature :=
  signatures.find? fun s => s.name = name

end Signature

end Lifecycle
