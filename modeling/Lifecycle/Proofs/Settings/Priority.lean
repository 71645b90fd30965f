import Lifecycle.Proofs.Settings.Section
import Mathlib

namespace Lifecycle

/-- What a file that is read supplies: the document in it, and nothing where there is no file. -/
def Surroundings.Supplies (s : Surroundings) (path : Option Path) (document : Layer) : Prop :=
  match path with
  | none => document = []
  | some p => ∃ text, Files.read? s.files s.cwd p = .ok (some text) ∧
      Document.Toml.read text = .ok document

namespace Surroundings

variable {s : Surroundings} {p q : Path}

theorem read_of_existing (h : s.existing? p = .ok (some q)) :
    ∃ text, Files.read? s.files s.cwd q = .ok (some text) := by
  simp only [existing?, bind_eq_ok, pure_eq_ok] at h
  obtain ⟨b, hb, h⟩ := h
  cases b with
  | false => cases h
  | true =>
    obtain rfl := Option.some.inj h
    obtain ⟨text?, hread, hsome⟩ := exists_of_map_eq_ok hb
    obtain ⟨text, rfl⟩ := Option.isSome_iff_exists.mp hsome
    exact ⟨text, hread⟩

theorem read_of_firstConfig {places : List Place} (h : s.firstConfig? places = .ok (some q)) :
    ∃ text, Files.read? s.files s.cwd q = .ok (some text) := by
  induction places with
  | nil => cases h
  | cons place places ih =>
    rw [firstConfig?, bind_eq_ok] at h
    obtain ⟨found, hfound, h⟩ := h
    cases found with
    | none => exact ih h
    | some r =>
      obtain rfl : r = q := Option.some.inj (Except.ok.inj h)
      exact read_of_existing hfound

theorem read_of_findConfig {origin : Origin} (h : s.findConfig? origin = .ok (some q)) :
    ∃ text, Files.read? s.files s.cwd q = .ok (some text) := by
  have hsearch : findConfig?.search s origin = .ok (some q) →
      ∃ text, Files.read? s.files s.cwd q = .ok (some text) := by
    intro h
    obtain ⟨here, _, h⟩ := bind_eq_ok.mp h
    exact read_of_firstConfig h
  unfold findConfig? at h
  split at h
  · split at h
    · exact hsearch h
    · exact read_of_existing h
  · exact hsearch h

end Surroundings

namespace Settings

/-- The first override for a setting, whose name may be written in any case. -/
def override? (overrides : List (String × Value)) (setting : String) : Option Value :=
  (overrides.find? fun o => respellSetting o.1 = setting).map (·.2)

section Overrides

variable {overrides : List (String × Value)}

theorem override?_cons (o : String × Value) (setting : String) :
    override? (o :: overrides) setting =
      if respellSetting o.1 = setting then some o.2 else override? overrides setting := by
  unfold override?
  rw [List.find?_cons]
  by_cases h : respellSetting o.1 = setting <;> simp [h]

theorem override?_filter {p : String × Value → Bool} {setting : String}
    (h : ∀ o, respellSetting o.1 = setting → p o = true) :
    override? (overrides.filter p) setting = override? overrides setting := by
  induction overrides with
  | nil => rfl
  | cons o overrides ih =>
    rw [override?_cons, List.filter_cons, ← ih]
    by_cases ho : respellSetting o.1 = setting
    · rw [if_pos (h o ho), override?_cons]
    · rw [if_neg ho]
      split
      · rw [override?_cons, if_neg ho]
      · rfl

variable (hplain : ∀ o ∈ overrides, o.1 ∉ readingNames)

include hplain

theorem readingOption?_eq_none {name : String} (hname : name ∈ readingNames) :
    readingOption? overrides name = none := by
  have hnone : field? name overrides = none := by
    rw [← Option.not_isSome_iff_eq_none, field?_isSome_iff]
    intro hmem
    obtain ⟨o, ho, rfl⟩ := List.mem_map.mp hmem
    exact hplain o ho hname
  rw [readingOption?, hnone]

theorem replacesSources_eq : replacesSources overrides = .ok false := by
  rw [replacesSources, readingOption?_eq_none hplain (by decide)]

theorem argumentLayer_eq : argumentLayer overrides = .ok [] := by
  rw [argumentLayer, readingOption?_eq_none hplain (by decide)]
  rfl

theorem readingOf_eq : readingOf overrides = .ok {} := by
  have hnone : ∀ name ∈ readingNames, readingOption? overrides name = none :=
    fun _ hname => readingOption?_eq_none hplain hname
  simp only [readingOf, readingFlag, hnone "_env_nested_max_split" (by decide),
    hnone "_env_prefix" (by decide), hnone "_env_file" (by decide),
    hnone "_env_nested_delimiter" (by decide), hnone "_case_sensitive" (by decide),
    hnone "_env_ignore_empty" (by decide), hnone "_env_parse_none_str" (by decide)]
  rfl

theorem overrideLayer_supplies : Table.IsKeyed (overrideLayer overrides) ∧
    ∀ setting, Table.lookup? (overrideLayer overrides) (.text setting) =
      override? overrides setting := by
  have hall : overrides.filter (fun o => !readingNames.contains o.1) = overrides := by
    refine List.filter_eq_self.mpr fun o ho => ?_
    simpa using hplain o ho
  let add (t : Layer) (o : String × Value) : Layer :=
    if Table.hasKey t (.text (respellSetting o.1)) then t
    else Table.put t (.text (respellSetting o.1)) o.2
  -- on the overrides, for all layers that those before have made: what is there counts
  have hfold : ∀ t : Layer, Table.IsKeyed t → Table.IsKeyed (overrides.foldl add t) ∧
      ∀ setting, Table.lookup? (overrides.foldl add t) (.text setting) =
        (Table.lookup? t (.text setting) <|> override? overrides setting) := by
    clear hall hplain
    induction overrides with
    | nil =>
      refine fun t ht => ⟨ht, fun setting => ?_⟩
      cases h : Table.lookup? t (.text setting) <;> simp [h, override?]
    | cons o overrides ih =>
      intro t ht
      have hadd : Table.IsKeyed (add t o) := by
        simp only [add]
        split
        · exact ht
        · exact Table.isKeyed_put ht _ _
      obtain ⟨hkeyed, hlookup⟩ := ih (add t o) hadd
      refine ⟨hkeyed, fun setting => ?_⟩
      rw [List.foldl_cons, hlookup, override?_cons]
      have hkey := Environment.key_text_eq_iff (a := setting) (b := respellSetting o.1)
      simp only [add, Table.hasKey_eq_isSome]
      by_cases ho : respellSetting o.1 = setting
      · rw [if_pos ho, ← ho]
        cases hl : Table.lookup? t (.text (respellSetting o.1)) with
        | none => simp [Table.lookup?_put]
        | some v => simp [hl]
      · rw [if_neg ho]
        split
        · rfl
        · rw [Table.lookup?_put, if_neg fun he => ho (hkey.mp he).symm]
  obtain ⟨hkeyed, hlookup⟩ := hfold [] .nil
  rw [overrideLayer, hall]
  exact ⟨hkeyed, hlookup⟩

end Overrides

theorem read_of_sourceFile {s : Surroundings} {given : Value} {origin : Surroundings.Origin}
    {p : Path} (h : sourceFile? s given origin = .ok (some p)) :
    ∃ text, Files.read? s.files s.cwd p = .ok (some text) := by
  unfold sourceFile? at h
  split at h
  · split at h
    · cases h
    · exact Surroundings.read_of_existing h
    · cases h
  · exact Surroundings.read_of_findConfig h

theorem supplies_of_documentLayer {s : Surroundings} {path : Option Path} {document : Layer}
    (hread : ∀ p, path = some p → ∃ text, Files.read? s.files s.cwd p = .ok (some text))
    (h : documentLayer s path = .ok document) : s.Supplies path document := by
  cases path with
  | none => exact (Except.ok.inj h).symm
  | some p =>
    obtain ⟨text, ht⟩ := hread p rfl
    refine ⟨text, ht, ?_⟩
    simp only [documentLayer, ht, ok_bind] at h
    split at h
    next t hdoc => rw [hdoc, Except.ok.inj h]
    all_goals cases h

variable {s : Surroundings} {overrides : List (String × Value)} {document object : Layer}

/-- What is given for a setting: by the first override, by the last variable or by the document. -/
def given? (s : Surroundings) (overrides : List (String × Value)) (document : Layer)
    (setting : String) : Option Value :=
  override? overrides setting <|> (Environment.written? s.vars setting).map .text <|>
    Table.lookup? document (.text setting)

/-- What is given for a leaf of the section: by the override for the section, by the variables, of which
one may hold a whole object, or by the document. -/
def givenLeaf? (s : Surroundings) (object : Table) (overrides : List (String × Value))
    (document : Layer) (leaf : String) : Option Value :=
  sectionLeaf? (override? overrides "validator") leaf <|> Environment.leaf? s.vars object leaf <|>
    document.leaf? leaf

theorem or_assoc (a b c : Option Value) : ((a <|> b) <|> c) = (a <|> b <|> c) := by
  cases a <;> rfl

theorem merge_supplies {environment given : Layer}
    (hgiven : given.IsLayered) (ho : Environment.HoldsObject s.vars object)
    (henv : Environment.layer {} s.vars = .ok environment)
    (hlookup : ∀ setting ∈ ["verbose", "log_json", "validator"],
      Table.lookup? given (.text setting) = override? overrides setting) :
    (∀ setting ∈ ["verbose", "log_json"], OrTable
      (Table.lookup? (merge document environment given []) (.text setting))
      (given? s overrides document setting)) ∧
    ∀ leaf ∈ Environment.leafNames, OrTable ((merge document environment given []).leaf? leaf)
      (givenLeaf? s object overrides document leaf) := by
  obtain ⟨hlayered, hverbose, hlogJson, hleaf⟩ := Environment.layer_supplies ho henv
  have hupper := Layer.isLayered_overlay hlayered hgiven
  -- what is given lies on top of the variables, and both on top of the document
  have hmerge : merge document environment given [] =
      Layer.overlay document (Layer.overlay environment given) := rfl
  rw [hmerge]
  constructor
  · intro setting hsetting
    have henvironment : Table.lookup? environment (.text setting) =
        (Environment.written? s.vars setting).map .text := by
      simp only [List.mem_cons, List.not_mem_nil, or_false] at hsetting
      rcases hsetting with rfl | rfl
      · exact hverbose
      · exact hlogJson
    have hupperSetting : OrTable (Table.lookup? (Layer.overlay environment given) (.text setting))
        (Table.lookup? given (.text setting) <|> Table.lookup? environment (.text setting)) :=
      Layer.lookup?_overlay_orTable hgiven.keyed _
    have hall : OrTable (Table.lookup? (Layer.overlay document (Layer.overlay environment given))
        (.text setting)) (_ <|> Table.lookup? document (.text setting)) :=
      (Layer.lookup?_overlay_orTable hupper.keyed _).or_left hupperSetting
    have hmem : setting ∈ ["verbose", "log_json", "validator"] :=
      List.mem_append_left ["validator"] hsetting
    rwa [or_assoc, hlookup setting hmem, henvironment] at hall
  · intro leaf hmem
    have hupperLeaf : OrTable ((Layer.overlay environment given).leaf? leaf)
        (given.leaf? leaf <|> Environment.leaf? s.vars object leaf) :=
      (Layer.leaf?_overlay_orTable hgiven leaf).or_right (hleaf leaf hmem)
    have hgivenLeaf : given.leaf? leaf = sectionLeaf? (override? overrides "validator") leaf := by
      rw [Layer.leaf?, hlookup "validator" (by decide)]
    have hall : OrTable ((Layer.overlay document (Layer.overlay environment given)).leaf? leaf)
        (_ <|> document.leaf? leaf) := (Layer.leaf?_overlay_orTable hupper leaf).or_left hupperLeaf
    rwa [or_assoc, hgivenLeaf] at hall

variable {configPath : Option String} {start : Option Path} {st : Settings}

/-- What the settings are read from: the names that tell how to read apart, the overrides are layers of
their own, and the path of the file is kept. -/
theorem of_load (hplain : ∀ o ∈ overrides, o.1 ∉ readingNames)
    (h : load s configPath start overrides = .ok st) :
    ∃ (path : Option Path) (document environment given : Layer),
      sourceFile? s ((field? "config_path" overrides <|> configPath.map Value.text).getD .none)
        (originOf start overrides) = .ok path ∧
      documentLayer s path = .ok document ∧ Environment.layer {} s.vars = .ok environment ∧
      Table.IsKeyed given ∧
      (∀ setting ∈ ["verbose", "log_json", "validator"],
        Table.lookup? given (.text setting) = override? overrides setting) ∧
      (check (Checked.ok path) (merge document environment given [])).result = .ok st := by
  simp only [load, bind_eq_ok] at h
  obtain ⟨_, _, path, hpath, h⟩ := h
  let kept := overrides.filter fun o => o.1 ≠ "config_path" && o.1 ≠ "start"
  have hkept : ∀ o ∈ kept, o.1 ∉ readingNames := fun o ho => hplain o (List.mem_filter.mp ho).1
  have h : fromLayers s path kept (some path) = .ok st := h
  simp only [fromLayers, replacesSources_eq hkept, readingOf_eq hkept, argumentLayer_eq hkept,
    ok_bind] at h
  rw [if_neg Bool.false_ne_true] at h
  obtain ⟨document, hdocument, h⟩ := bind_eq_ok.mp h
  obtain ⟨environment, henvironment, h⟩ := bind_eq_ok.mp h
  obtain ⟨hkeyed, hlookup⟩ := overrideLayer_supplies hkept
  refine ⟨path, document, environment, overrideLayer kept, hpath, hdocument, henvironment, hkeyed,
    ?_, h⟩
  intro setting hsetting
  -- the names that do not get into the layer are those of no setting that is looked up in it
  have hnames : respellSetting "config_path" ∉ ["verbose", "log_json", "validator"] ∧
      respellSetting "start" ∉ ["verbose", "log_json", "validator"] := by
    have hpath : respellSetting "config_path" = "config_path" := by decide +kernel
    have hstart : respellSetting "start" = "start" := by decide +kernel
    rw [hpath, hstart]
    decide
  rw [hlookup, override?_filter]
  intro o ho
  have hne : o.1 ≠ "config_path" ∧ o.1 ≠ "start" := by
    constructor
    · intro he
      exact hnames.1 (he ▸ ho ▸ hsetting)
    · intro he
      exact hnames.2 (he ▸ ho ▸ hsetting)
  simp [hne]

/-- Settings follow their sources one by one. Each of them, and each leaf of the section, is made of what
the overrides give for it, or else the variables, or else the document, or else it is the default. Of the
variables a leaf's own counts before the object that another one holds, unless the object has the leaf
under its name and after it in another case: then the last of these counts. The path is that of the file
that was read. -/
theorem load_supplies (hplain : ∀ o ∈ overrides, o.1 ∉ readingNames)
    (hobject : Environment.HoldsObject s.vars object)
    (hsection : ∀ v, override? overrides "validator" = some v → v.IsMapping)
    (h : load s configPath start overrides = .ok st) :
    ∃ document : Layer,
      sourceFile? s ((field? "config_path" overrides <|> configPath.map Value.text).getD .none)
        (originOf start overrides) = .ok st.configPath ∧
      s.Supplies st.configPath document ∧
      Supplied Coercion.truth false (given? s overrides document "verbose") st.verbose ∧
      Supplied Coercion.truth false (given? s overrides document "log_json") st.logJson ∧
      Supplied Coercion.text "can_transit" (givenLeaf? s object overrides document "name")
        st.validator.name ∧
      Supplied Coercion.text "cannot transit from \x7bold\x7d to \x7bnew\x7d"
        (givenLeaf? s object overrides document "message") st.validator.message ∧
      Supplied Coercion.truth true (givenLeaf? s object overrides document "required")
        st.validator.required ∧
      Supplied Coercion.text "None" (givenLeaf? s object overrides document "absent_token")
        st.validator.absentToken := by
  obtain ⟨path, document, environment, given, hpath, hdocument, henvironment, hkeyed, hlookup,
    hcheck⟩ := of_load hplain h
  have hgiven : given.IsLayered := by
    refine ⟨hkeyed, fun v hv => hsection v ?_⟩
    rwa [← hlookup "validator" (by decide)]
  obtain ⟨hsettings, hleaves⟩ :=
    @merge_supplies s overrides document object environment given hgiven hobject henvironment hlookup
  have hvalue := Checked.value?_of_also (Checked.value?_of_result hcheck)
  obtain ⟨⟨⟨⟨p, v⟩, l⟩, d⟩, hall, rfl⟩ := Checked.value?_map.mp hvalue
  obtain ⟨hrest, hd⟩ := Checked.value?_both.mp hall
  obtain ⟨hrest, hl⟩ := Checked.value?_both.mp hrest
  obtain ⟨hp, hv⟩ := Checked.value?_both.mp hrest
  obtain rfl : path = p := Option.some.inj hp
  obtain ⟨hname, hmessage, hrequired, habsent⟩ := supplied_of_checkSection hd
  have hread : s.Supplies path document :=
    supplies_of_documentLayer (fun p hp => read_of_sourceFile (hp ▸ hpath)) hdocument
  refine ⟨document, hpath, hread, ?_, ?_, ?_, ?_, ?_, ?_⟩
  · exact (supplied_of_leaf hv).of_orTable truth_dict_ne_ok (hsettings "verbose" (by decide))
  · exact (supplied_of_leaf hl).of_orTable truth_dict_ne_ok (hsettings "log_json" (by decide))
  · exact hname.of_orTable text_dict_ne_ok (hleaves "name" (by decide))
  · exact hmessage.of_orTable text_dict_ne_ok (hleaves "message" (by decide))
  · exact hrequired.of_orTable truth_dict_ne_ok (hleaves "required" (by decide))
  · exact habsent.of_orTable text_dict_ne_ok (hleaves "absent_token" (by decide))

/-- Four sources, each with leaves of its own: a name that the object and the file have too comes from its
own variable. -/
theorem load_supplies_each :
    let s : Surroundings := {
      vars := [("STATETRANSIT_VALIDATOR", "\x7b\"name\": \"a\", \"required\": false\x7d"),
        ("STATETRANSIT_VALIDATOR__NAME", "c")]
      files := [(["statetransit.toml"], .file "[validator]\nname = \"d\"\nmessage = \"m\"")] }
    let object : Table := [(.text "name", .text "a"), (.text "required", .bool false)]
    let overrides : List (String × Value) :=
      [("validator", .dict 0 [(.text "absent_token", .text "-")])]
    (∀ o ∈ overrides, o.1 ∉ readingNames) ∧ Environment.HoldsObject s.vars object ∧
      (∀ v, override? overrides "validator" = some v → v.IsMapping) ∧
      ∃ st, load s none none overrides = .ok st ∧ st.configPath = some ⟨1, ["statetransit.toml"]⟩ ∧
        st.validator = ⟨"c", "m", false, "-"⟩ ∧
        ∃ document, s.Supplies st.configPath document ∧ Supplied Coercion.text "can_transit"
          (givenLeaf? s object overrides document "name") st.validator.name := by
  intro s object overrides
  have hplain : ∀ o ∈ overrides, o.1 ∉ readingNames := by decide
  have hwritten : Environment.written? s.vars "validator" =
      some "\x7b\"name\": \"a\", \"required\": false\x7d" := by
    rw [← Environment.field?_readAll]
    cbv
  have hparsed : Document.Json.read "\x7b\"name\": \"a\", \"required\": false\x7d" =
      .ok (.dict 0 object) := by cbv
  have hobject : Environment.HoldsObject s.vars object := .set hwritten hparsed
  have hsection : ∀ v, override? overrides "validator" = some v → v.IsMapping := by
    intro v hv
    have hname : respellSetting "validator" = "validator" := by decide +kernel
    rw [override?_cons, if_pos hname] at hv
    exact ⟨0, ⟨_, List.pairwise_singleton _ _⟩, (Option.some.inj hv).symm⟩
  have hload : load s none none overrides =
      .ok ⟨some ⟨1, ["statetransit.toml"]⟩, false, false, ⟨"c", "m", false, "-"⟩⟩ := by cbv
  obtain ⟨document, _, hread, _, _, hname, _⟩ := load_supplies hplain hobject hsection hload
  exact ⟨hplain, hobject, hsection, _, hload, rfl, rfl, document, hread, hname⟩

/-- A name in another case, after the name itself in one object, stands before the name's own
variable. -/
theorem load_later_spelling :
    let s : Surroundings := {
      vars := [("STATETRANSIT_VALIDATOR", "\x7b\"name\": \"a\", \"NAME\": \"b\"\x7d"),
        ("STATETRANSIT_VALIDATOR__NAME", "c")] }
    Environment.written? s.vars "validator__name" = some "c" ∧
      Environment.HoldsObject s.vars [(.text "name", .text "a"), (.text "NAME", .text "b")] ∧
      load s none none [] = .ok { validator := { name := "b" } } := by
  intro s
  have hown : Environment.written? s.vars "validator__name" = some "c" := by
    rw [← Environment.field?_readAll]
    cbv
  have hwritten : Environment.written? s.vars "validator" =
      some "\x7b\"name\": \"a\", \"NAME\": \"b\"\x7d" := by
    rw [← Environment.field?_readAll]
    cbv
  have hparsed : Document.Json.read "\x7b\"name\": \"a\", \"NAME\": \"b\"\x7d" =
      .ok (.dict 0 [(.text "name", .text "a"), (.text "NAME", .text "b")]) := by cbv
  have hload : load s none none [] = .ok { validator := { name := "b" } } := by cbv
  exact ⟨hown, .set hwritten hparsed, hload⟩

end Settings

end Lifecycle
