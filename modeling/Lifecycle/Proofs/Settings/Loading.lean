import Lifecycle.Proofs.Settings.Discovery
import Lifecycle.Proofs.Settings.Variables

namespace Lifecycle

namespace Surroundings

/-- Without any files there is nothing to be found at the top. -/
theorem findConfig?_of_no_files {vars : List (String × String)}
    (hunset : field? configVariable vars = none) :
    ({ vars } : Surroundings).findConfig? .here = .ok none := by
  have hshort : ¬ ({ vars } : Surroundings).IsTooLong (configIn []) :=
    not_isTooLong (by decide +kernel) (by decide +kernel)
  have hmissing : ¬ ({ vars } : Surroundings).HasFile (configIn []) :=
    fun h => Bool.false_ne_true h.isSome
  have hvar : ({ vars } : Surroundings).valueOf? configVariable = none := hunset
  rw [findConfig?_of_unset (.inl hvar) rfl]
  show (({ vars } : Surroundings).existing? (configIn []) >>= _) = _
  rw [existing?_of_not_hasFile hshort hmissing]
  rfl

end Surroundings

namespace Environment

open Coercion

variable {vars : List (String × String)}

/-- What the variables make, where none of them holds a whole object for the section. -/
theorem layer_of_no_object (hwhole : written? vars "validator" = none) {nested : Table}
    (hnested : (({} : Reading).readAll vars).foldl nest [] = nested) :
    layer {} vars = .ok ([("config_path", (written? vars "config_path").map Value.text),
      ("verbose", (written? vars "verbose").map Value.text),
      ("log_json", (written? vars "log_json").map Value.text),
      ("validator", if nested.isEmpty then none else some (respell {} nested))].filterMap
        fun e => e.2.map fun v => (.text e.1, v)) := by
  have hsection : section? {} (({} : Reading).readAll vars) =
      .ok (if nested.isEmpty then none else some (respell {} nested)) := by
    rw [section?, field?_readAll, hwhole, nestedValues_eq, hnested]
    rfl
  show (section? {} (({} : Reading).readAll vars) >>= _) = _
  rw [hsection, ok_bind]
  simp only [plain?_eq]
  rfl

theorem written?_singleton (name w setting : String) : written? [(name, w)] setting =
    if lowered name = lowered ("STATETRANSIT_" ++ setting) then some w else none := by
  unfold written?
  split
  next h => simp [h]
  next h => simp [h]

theorem readAll_singleton (name w : String) :
    ({} : Reading).readAll [(name, w)] = [(lowered name, w)] := by
  rw [readAll_eq]
  rfl

theorem layer_verbose (w : String) :
    layer {} [("STATETRANSIT_VERBOSE", w)] = .ok [(.text "verbose", .text w)] := by
  have hname : lowered "STATETRANSIT_VERBOSE" = "statetransit_verbose" := by decide +kernel
  have hstart : afterPrefix? sectionStart "statetransit_verbose" = none := by decide +kernel
  have hnested : (({} : Reading).readAll [("STATETRANSIT_VERBOSE", w)]).foldl nest [] = [] := by
    rw [readAll_singleton, hname]
    exact nest_of_none (v := ("statetransit_verbose", w)) hstart
  have hother : ∀ setting ∈ ["validator", "config_path", "log_json"],
      written? [("STATETRANSIT_VERBOSE", w)] setting = none := by
    intro setting hsetting
    rw [written?_singleton, hname, if_neg]
    revert setting
    decide +kernel
  have hown : written? [("STATETRANSIT_VERBOSE", w)] "verbose" = some w := by
    rw [written?_singleton, hname, if_pos (by decide +kernel)]
  rw [layer_of_no_object (hother "validator" (by simp)) hnested, hother "config_path" (by simp), hown,
    hother "log_json" (by simp)]
  rfl

theorem layer_name (w : String) : layer {} [("STATETRANSIT_VALIDATOR__NAME", w)] =
    .ok [(.text "validator", .dict 0 [(.text "name", .text w)])] := by
  have hname : lowered "STATETRANSIT_VALIDATOR__NAME" = "statetransit_validator__name" := by
    decide +kernel
  have hstart : afterPrefix? sectionStart "statetransit_validator__name" = some "name" := by
    decide +kernel
  have hnested : (({} : Reading).readAll [("STATETRANSIT_VALIDATOR__NAME", w)]).foldl nest [] =
      [(.text "name", .text w)] := by
    rw [readAll_singleton, hname]
    show nest [] ("statetransit_validator__name", w) = _
    rw [nest_of_some (v := ("statetransit_validator__name", w)) hstart,
      (isLeaf_of_mem (by simp [leafNames])).whole]
    rfl
  -- no other setting is read from a variable of this name
  have hother : ∀ setting ∈ ["validator", "config_path", "verbose", "log_json"],
      written? [("STATETRANSIT_VALIDATOR__NAME", w)] setting = none := by
    intro setting hsetting
    rw [written?_singleton, hname, if_neg]
    revert setting
    decide +kernel
  have hspelling : leafSpelling "name" = "name" := by decide +kernel
  have hrespell : respell {} [(.text "name", .text w)] = .dict 0 [(.text "name", .text w)] := by
    show Value.dict 0 (Table.put [] (.text (leafSpelling "name")) (.text w)) = _
    rw [hspelling]
    rfl
  rw [layer_of_no_object (hother "validator" (by simp)) hnested, hother "config_path" (by simp),
    hother "verbose" (by simp), hother "log_json" (by simp), hrespell]
  rfl

end Environment

namespace Settings

/-- Where there are no files, settings come from variables alone. -/
theorem load_of_no_files {vars : List (String × String)} {t : Layer}
    (hunset : field? configVariable vars = none) (ht : Environment.layer {} vars = .ok t) :
    load { vars } none none [] = (check (Checked.ok none) (merge [] t [] [])).result := by
  have hsource : sourceFile? { vars } .none .here = .ok none := by
    simpa [sourceFile?, Value.truth] using Surroundings.findConfig?_of_no_files hunset
  show (sourceFile? { vars } .none .here >>= _) = _
  rw [hsource]
  show (Environment.layer {} vars >>= _) = _
  rw [ht]
  rfl

theorem load_unreadable {w : String} (h : Coercion.truthWord? w = none) :
    load { vars := [("STATETRANSIT_VERBOSE", w)] } none none [] =
      .error (.rejected [Issue.at "verbose" .unreadableTruth]) := by
  have hunset : field? configVariable [("STATETRANSIT_VERBOSE", w)] = none := by
    simp [field?, configVariable]
  rw [load_of_no_files hunset (Environment.layer_verbose w)]
  have hleaf : Coercion.truth (.text w) = .error .unreadableTruth := by
    show Coercion.truthOfText w = _
    rw [Coercion.truthOfText, h]
  have hverbose : leaf [(.text "verbose", .text w)] [] "verbose" false Coercion.truth =
      Checked.failed [Issue.at "verbose" .unreadableTruth] := by
    show Checked.ofExcept _ (Coercion.truth (.text w)) = _
    rw [hleaf]
    rfl
  show (check (Checked.ok none) [(.text "verbose", .text w)]).result = _
  rw [check, hverbose]
  rfl

theorem load_name (w : String) :
    load { vars := [("STATETRANSIT_VALIDATOR__NAME", w)] } none none [] =
      .ok { validator := { name := w } } := by
  have hunset : field? configVariable [("STATETRANSIT_VALIDATOR__NAME", w)] = none := by
    simp [field?, configVariable]
  rw [load_of_no_files hunset (Environment.layer_name w)]
  rfl

theorem load_defaults : load {} none none [] = .ok {} := by
  rw [load_of_no_files (t := []) rfl rfl]
  rfl

end Settings

end Lifecycle
