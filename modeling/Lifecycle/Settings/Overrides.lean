import Lifecycle.Settings.CommandLine
import Lifecycle.Value.Conversion

namespace Lifecycle.Settings

def knownNames : List String := ["config_path", "verbose", "log_json", "validator"]

def respellSetting (name : String) : String :=
  (knownNames.find? fun known => known = Coercion.lowerAscii name).getD name

def readingNames : List String := ["_case_sensitive", "_nested_model_default_partial_update",
  "_env_prefix", "_env_prefix_target", "_env_file", "_env_file_encoding", "_env_ignore_empty",
  "_env_nested_delimiter", "_env_nested_max_split", "_env_parse_none_str", "_env_parse_enums",
  "_cli_prog_name", "_cli_parse_args", "_cli_settings_source", "_cli_parse_none_str",
  "_cli_hide_none_type", "_cli_avoid_json", "_cli_enforce_required",
  "_cli_use_class_docs_for_groups", "_cli_exit_on_error", "_cli_prefix", "_cli_flag_prefix_char",
  "_cli_implicit_flags", "_cli_ignore_unknown_args", "_cli_kebab_case", "_cli_shortcuts",
  "_cli_show_env_vars", "_secrets_dir", "_build_sources"]

/-- Overrides by setting. Of those that name one setting the first counts. -/
def overrideLayer (overrides : List (String × Value)) : Layer :=
  let settings := overrides.filter fun (n, _) => !readingNames.contains n
  settings.foldl (fun t (n, v) =>
    let k := Value.text (respellSetting n)
    if Table.hasKey t k then t else Table.put t k v) []

def readingOption? (overrides : List (String × Value)) (name : String) : Option Value :=
  match field? name overrides with
  | some .none => none
  | found => found

def readingFlag (overrides : List (String × Value)) (name : String) (default : Bool) : Bool :=
  ((readingOption? overrides name).map Value.truth).getD default

/-- What variables' names begin with. Anything that has a length will do until a name is made of it. -/
def namePrefixOf (v : Value) : Except Fault (Option String) :=
  match v.text? with
  | some s => .ok (some s)
  | none =>
    if v.hasLength then .ok none
    else Value.told ("object of type '" ++ v.longTypeName ++ "' has no len()")

/-- How often a nested name is split, one less than the number of parts. What is no whole number is a
fault at once, or only when a name is to be split. -/
def splitLimitOf (v : Value) : Except Fault (Except Fault (Option Nat)) :=
  match v, v.int? with
  | .float _, _ =>
    .ok (if v.truth then Value.told "'float' object cannot be interpreted as an integer" else .ok none)
  | _, some n =>
    .ok (if n ≤ 0 then .ok none
      else if fitsWord (n - 1) then .ok (some (n - 1).toNat)
      else .error (.numberTooLarge "C ssize_t"))
  | _, none =>
    if v.truth then
      Value.told ("unsupported operand type(s) for -: '" ++ v.longTypeName ++ "' and 'int'")
    else .ok (.ok none)

def needPaths (v : Value) : Except Fault Unit :=
  match v.text?, v.elements? with
  | some _, _ => .ok ()
  | none, some xs => xs.forM needPath
  | none, none => .error (.misuse (.notIterable v.longTypeName))
where
  needPath (x : Value) : Except Fault Unit :=
    match x, x.text? with
    | .bytes _, _ => .error (.misuse .bytesPath)
    | _, some _ => .ok ()
    | _, none => .error (.misuse (.notAPath x.longTypeName))

def readingOf (overrides : List (String × Value)) : Except Fault Environment.Reading := do
  let option := readingOption? overrides
  let plain : Environment.Reading := {}
  let splitLimit ← match option "_env_nested_max_split" with
    | some v => splitLimitOf v
    | none => pure plain.splitLimit
  let namePrefix ← match option "_env_prefix" with
    | some v => namePrefixOf v
    | none => pure plain.namePrefix
  if let some v := option "_env_file" then needPaths v
  let delimiter := option "_env_nested_delimiter"
  return {
    namePrefix
    exact := readingFlag overrides "_case_sensitive" false
    skipsEmpty := readingFlag overrides "_env_ignore_empty" false
    delimiter := match delimiter with
      | some v => if v.truth then v.display else ""
      | none => plain.delimiter
    splitLimit := match delimiter with
      | some v =>
        if v.text?.isSome then splitLimit
        else Value.told ("must be str or None, not " ++ v.longTypeName)
      | none => splitLimit
    noneText := (option "_env_parse_none_str").bind Value.text? }

def commandLineOf (overrides : List (String × Value)) : Except Fault CommandLine := do
  let option := readingOption? overrides
  let start := ((option "_cli_prefix").bind Value.text?).getD ""
  let flag := readingFlag overrides
  if start.startsWith "." || start.endsWith "." then
    throw (.badArguments ("CLI settings source prefix is invalid: " ++ start))
  let whole := !flag "_cli_avoid_json" false
  let noneText := ((option "_cli_parse_none_str").bind Value.text?).getD ""
  return {
    start := if start = "" then "" else start ++ "."
    hyphens := flag "_cli_kebab_case" false
    wholeSection := whole
    noneText := if noneText ≠ "" then noneText else if whole then "null" else "None"
    switches := flag "_cli_implicit_flags" false
    skipsUnknown := flag "_cli_ignore_unknown_args" false
    exits := flag "_cli_exit_on_error" true }

def argumentsOf (v : Value) : Except Fault (List String) :=
  match v with
  | .list _ xs | .tuple xs => xs.mapM fun x =>
    match x.text? with
    | some s => .ok s
    | none => .error (.misuse (.notIndexable x.longTypeName))
  | .bool true => .ok []
  | _ =>
    if v.same (.bool false) then .ok []
    else .error (.badArguments
      ("cli_parse_args must be a list or tuple of strings, received " ++ v.ownType.repr))

def argumentLayer (overrides : List (String × Value)) : Except Fault Layer := do
  match readingOption? overrides "_cli_parse_args" with
  | some v => (← commandLineOf overrides).layer (← argumentsOf v)
  | none => return []

/-- Whether the overrides name sources of their own, which then supply nothing. -/
def replacesSources (overrides : List (String × Value)) : Except Fault Bool :=
  match readingOption? overrides "_build_sources" with
  | none => .ok false
  | some v =>
    match v.elements? with
    | none => Value.told ("cannot unpack non-iterable " ++ v.longTypeName ++ " object")
    | some [sources, _] =>
      if !sources.truth then .ok true
      else match sources.elements? with
        | none => .error (.misuse (.notIterable sources.longTypeName))
        | some xs =>
          match xs.find? fun x => !x.isCallable with
          | some x => .error (.misuse (.notCallable x.longTypeName))
          | none => .ok true
    | some xs => .error (.badValue (.unpacked 2 xs.length))

end Lifecycle.Settings
