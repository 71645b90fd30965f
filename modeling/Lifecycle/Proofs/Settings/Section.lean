import Lifecycle.Proofs.Document.Json
import Lifecycle.Proofs.Settings.Variables
import Lifecycle.Proofs.Value.Equality

namespace Lifecycle

namespace Environment

open Coercion

/-- Whether an entry stands under the name of a leaf, written in any case. -/
def spells (leaf : String) (e : Value × Value) : Bool := e.1.text?.map lowered = some leaf

/-- The last entry of a table for a leaf. -/
def spelled? (t : Table) (leaf : String) : Option (Value × Value) := t.reverse.find? (spells leaf)

/-- What a table has for a leaf under its name in another case, after what it has under the name
itself. -/
def laterSpelling? (t : Table) (leaf : String) : Option Value :=
  if Table.hasKey t (.text leaf) then
    (spelled? t leaf).bind fun e => if e.1.key = (Value.text leaf).key then none else some e.2
  else none

variable {t base upper : Table} {leaf k : String} {v : Value}

theorem key_text_eq_iff {a b : String} : (Value.text a).key = (Value.text b).key ↔ a = b := by
  simp [Value.key, Key.leaf]

theorem spells_text {n : String} : spells leaf (.text n, v) = decide (lowered n = leaf) := by
  simp [spells, Value.text?]

theorem key_ne_of_spells {e : Value × Value} (h : spells leaf e = true) (hk : lowered k ≠ leaf) :
    e.1.key ≠ (Value.text k).key := by
  simp only [spells, decide_eq_true_eq, Option.map_eq_some_iff] at h
  obtain ⟨n, hn, rfl⟩ := h
  rw [Value.key_of_text? hn]
  rintro he
  have hnk : n = k := by simpa [Value.key, Key.leaf] using he
  exact hk (hnk ▸ rfl)

theorem spelled?_append_singleton (t : Table) (e : Value × Value) :
    spelled? (t ++ [e]) leaf = if spells leaf e then some e else spelled? t leaf := by
  rw [spelled?, List.reverse_append, List.reverse_singleton, List.singleton_append,
    List.find?_cons]
  cases spells leaf e <;> rfl

theorem spelled?_cons (e : Value × Value) (t : Table) :
    spelled? (e :: t) leaf = (spelled? t leaf <|> if spells leaf e then some e else none) := by
  rw [spelled?, List.reverse_cons, List.find?_append, List.find?_singleton, spelled?]
  cases t.reverse.find? (spells leaf) <;> rfl

theorem spelled?_map_replace (t : Table) (k : String) (v : Value) :
    spelled? (t.map fun e => if e.1.key = (Value.text k).key then (e.1, v) else e) leaf =
      (spelled? t leaf).map fun e => if e.1.key = (Value.text k).key then (e.1, v) else e := by
  rw [spelled?, ← List.map_reverse, List.find?_map, spelled?]
  congr 2
  funext e
  simp only [Function.comp, spells]
  split <;> rfl

theorem spelled?_put_of_ne (hk : lowered k ≠ leaf) :
    spelled? (Table.put t (.text k) v) leaf = spelled? t leaf := by
  unfold Table.put
  split
  · rw [spelled?_map_replace]
    cases hs : spelled? t leaf with
    | none => rfl
    | some e =>
      have hne := key_ne_of_spells (List.find?_some hs) hk
      simp [hne]
  · rw [spelled?_append_singleton, spells_text]
    simp [hk]

theorem spelled?_put_self (hleaf : lowered leaf = leaf) :
    spelled? (Table.put t (.text leaf) v) leaf =
      if Table.hasKey t (.text leaf) then
        (spelled? t leaf).map fun e => if e.1.key = (Value.text leaf).key then (e.1, v) else e
      else some (.text leaf, v) := by
  unfold Table.put
  split
  · exact spelled?_map_replace t leaf v
  · rw [spelled?_append_singleton, spells_text]
    simp [hleaf]

theorem spelled?_overlay (hupper : IsLowered upper) (hleaf : lowered leaf = leaf) :
    spelled? (Layer.overlay base upper) leaf = match Table.lookup? upper (.text leaf) with
      | some v => spelled?
          (Table.put base (.text leaf) (overlaid (Table.lookup? base (.text leaf)) v)) leaf
      | none => spelled? base leaf := by
  induction upper generalizing base with
  | nil => rfl
  | cons e upper ih =>
    obtain ⟨he, hrest⟩ := List.pairwise_cons.mp hupper.keyed
    obtain ⟨k, hk, hlow⟩ := hupper.names e List.mem_cons_self
    have hupper' : IsLowered upper := ⟨hrest, fun f hf => hupper.names f (List.mem_cons_of_mem _ hf)⟩
    obtain ⟨_, x⟩ := e
    obtain rfl := hk
    rw [Layer.overlay, ih hupper', Table.lookup?_cons]
    by_cases h : k = leaf
    · subst h
      have hnone : Table.lookup? upper (.text k) = none :=
        Table.lookup?_eq_none_iff.mpr fun f hf => (he f hf).symm
      rw [hnone, if_pos rfl]
    · have hne : (Value.text k).key ≠ (Value.text leaf).key := fun hkey => h (key_text_eq_iff.mp hkey)
      have hlowne : lowered k ≠ leaf := hlow.symm ▸ h
      rw [if_neg hne]
      cases Table.lookup? upper (.text leaf) with
      | none => exact spelled?_put_of_ne hlowne
      | some y =>
        simp only [spelled?_put_self hleaf, spelled?_put_of_ne hlowne, Table.lookup?_put,
          Table.hasKey_put, if_neg (Ne.symm hne), decide_eq_false hne, Bool.false_or]

theorem spelled?_of_isLowered (ht : IsLowered t) (hleaf : lowered leaf = leaf) :
    (spelled? t leaf).map (·.2) = Table.lookup? t (.text leaf) := by
  cases hs : spelled? t leaf with
  | none =>
    rw [spelled?, List.find?_eq_none] at hs
    refine (Table.lookup?_eq_none_iff.mpr fun e he hk => ?_).symm
    obtain ⟨n, hn, _⟩ := ht.names e he
    rw [hn, key_text_eq_iff] at hk
    apply hs e (List.mem_reverse.mpr he)
    simp [spells, hn, Value.text?, hk, hleaf]
  | some e =>
    have he : e ∈ t := List.mem_reverse.mp (List.mem_of_find?_eq_some hs)
    obtain ⟨n, hn, hlow⟩ := ht.names e he
    have hsp : spells leaf e = true := List.find?_some hs
    have hnl : n = leaf := by
      simpa [spells, hn, Value.text?, hlow] using hsp
    rw [← hnl, ← hn, Table.lookup?_of_mem ht.keyed he]
    rfl

theorem laterSpelling?_or (t : Table) (leaf : String) :
    (laterSpelling? t leaf <|> (spelled? t leaf).map (·.2)) = (spelled? t leaf).map (·.2) := by
  unfold laterSpelling?
  split
  · cases spelled? t leaf with
    | none => rfl
    | some e => by_cases h : e.1.key = (Value.text leaf).key <;> simp [h]
  · rfl

/-- What the variables give for a leaf of the section, where one of them holds a whole object. -/
def leaf? (vars : List (String × String)) (object : Table) (leaf : String) : Option Value :=
  laterSpelling? object leaf <|> (written? vars ("validator__" ++ leaf)).map .text <|>
    (spelled? object leaf).map (·.2)

theorem spelled?_isSome {object : Table} (ho : Table.HasTextNames object)
    (hleaf : lowered leaf = leaf) (h : Table.hasKey object (.text leaf) = true) :
    ∃ e, spelled? object leaf = some e := by
  obtain ⟨e, he, hk⟩ := Table.hasKey_iff.mp h
  obtain ⟨n, hn⟩ := ho e he
  rw [hn, key_text_eq_iff] at hk
  apply Option.isSome_iff_exists.mp
  rw [spelled?, List.find?_isSome]
  exact ⟨e, List.mem_reverse.mpr he, by simp [spells, hn, Value.text?, hk, hleaf]⟩

theorem spelled?_put_value {object : Table} (ho : Table.HasTextNames object)
    (hleaf : lowered leaf = leaf) (v : Value) :
    (spelled? (Table.put object (.text leaf) v) leaf).map (·.2) =
      (laterSpelling? object leaf <|> some v) := by
  rw [spelled?_put_self hleaf, laterSpelling?]
  split
  next hkey =>
    obtain ⟨e, he⟩ := spelled?_isSome ho hleaf hkey
    by_cases h : e.1.key = (Value.text leaf).key <;> simp [he, h]
  next => rfl

theorem hasTextNames_overlay (hb : Table.HasTextNames base) (hu : Table.HasTextNames upper) :
    Table.HasTextNames (Layer.overlay base upper) := by
  induction upper generalizing base with
  | nil => exact hb
  | cons e upper ih =>
    rw [Layer.overlay]
    apply ih
    · intro f hf
      rcases mem_put hf with ⟨g, hg, hgf⟩ | hfe
      · rw [← hgf]
        exact hb g hg
      · rw [hfe]
        exact hu e List.mem_cons_self
    · exact fun f hf => hu f (List.mem_cons_of_mem _ hf)

theorem spelled?_overlay_orTable {object nested : Table} {own : Option String}
    (ho : Table.HasTextNames object) (hn : IsLowered nested) (hleaf : lowered leaf = leaf)
    (hown : HasOwn nested leaf own) :
    OrTable ((spelled? (Layer.overlay object nested) leaf).map (·.2))
      (laterSpelling? object leaf <|> own.map .text <|> (spelled? object leaf).map (·.2)) := by
  rw [spelled?_overlay hn hleaf]
  -- the variable of the leaf is put over the object, but not over a later spelling in it
  cases own with
  | some w =>
    have hl : Table.lookup? nested (.text leaf) = some (.text w) := hown
    rw [hl]
    exact .inl (spelled?_put_value ho hleaf (.text w))
  | none =>
    show OrTable _ (laterSpelling? object leaf <|> (spelled? object leaf).map (·.2))
    rcases hown with hl | ⟨id, u, hl⟩
    · rw [hl, laterSpelling?_or]
      exact .refl _
    · rw [hl]
      dsimp only
      rw [spelled?_put_value ho hleaf]
      cases laterSpelling? object leaf with
      | some x => exact .inl rfl
      | none =>
        rcases overlaid_orTable (Table.lookup? object (.text leaf)) (.dict id u) with h | h
        · exact .inr ⟨id, u, h⟩
        · exact .inr h

theorem leafSpelling_eq_iff {n : String} (hleaf : leaf ∈ leafNames) :
    leafSpelling n = leaf ↔ lowered n = leaf := by
  have hlow := (isLeaf_of_mem hleaf).lowered
  unfold leafSpelling
  cases hf : leafNames.find? fun l => l = lowered n with
  | some l =>
    have hl : l = lowered n := by simpa using List.find?_some hf
    rw [Option.getD_some, hl]
  | none =>
    rw [List.find?_eq_none] at hf
    have hne : lowered n ≠ leaf := by
      intro h
      exact hf leaf hleaf (by simp [h])
    rw [Option.getD_none]
    constructor
    · intro h
      exact absurd (h ▸ hlow) hne
    · intro h
      exact absurd h hne

/-- Puts an entry under its name as leaves are spelled. -/
def putSpelled (out : Table) (e : Value × Value) : Table :=
  match e.1 with
  | .text name => Table.put out (.text (leafSpelling name)) e.2
  | _ => Table.put out e.1 e.2

/-- A section with its names put right has for a leaf what its last entry for it has. -/
theorem lookup?_respell (ht : Table.HasTextNames t) (hleaf : leaf ∈ leafNames) :
    ∃ below, respell {} t = .dict 0 below ∧ Table.IsKeyed below ∧
      Table.lookup? below (.text leaf) = (spelled? t leaf).map (·.2) := by
  -- on the entries, for all tables that those before have made: of two spellings the last counts
  have hfold : ∀ out : Table, Table.IsKeyed out → Table.IsKeyed (t.foldl putSpelled out) ∧
      Table.lookup? (t.foldl putSpelled out) (.text leaf) =
        ((spelled? t leaf).map (·.2) <|> Table.lookup? out (.text leaf)) := by
    induction t with
    | nil => exact fun out hout => ⟨hout, rfl⟩
    | cons e t ih =>
      intro out hout
      obtain ⟨n, hn⟩ := ht e List.mem_cons_self
      have hput : putSpelled out e = Table.put out (.text (leafSpelling n)) e.2 := by
        simp only [putSpelled, hn]
      have ht' : Table.HasTextNames t := fun f hf => ht f (List.mem_cons_of_mem _ hf)
      obtain ⟨hkeyed, hlookup⟩ := ih ht' (putSpelled out e) (hput ▸ Table.isKeyed_put hout _ _)
      refine ⟨hkeyed, ?_⟩
      have hspells : spells leaf e = decide (lowered n = leaf) := by
        simp [spells, hn, Value.text?]
      have hkey : (Value.text leaf).key = (Value.text (leafSpelling n)).key ↔ lowered n = leaf := by
        rw [key_text_eq_iff, eq_comm, leafSpelling_eq_iff hleaf]
      rw [List.foldl_cons, hlookup, hput, Table.lookup?_put, spelled?_cons, hspells]
      by_cases h : lowered n = leaf
      · rw [if_pos (hkey.mpr h)]
        cases spelled? t leaf <;> simp [h]
      · rw [if_neg fun he => h (hkey.mp he)]
        cases spelled? t leaf <;> simp [h]
  obtain ⟨hkeyed, hlookup⟩ := hfold [] .nil
  refine ⟨_, rfl, hkeyed, hlookup.trans ?_⟩
  cases spelled? t leaf <;> rfl

/-- One of the variables holds a whole object, with the given entries; without that variable there are
none. -/
inductive HoldsObject (vars : List (String × String)) : Table → Prop
  | unset (h : written? vars "validator" = none) : HoldsObject vars []
  | set {written : String} {id : Nat} {items : Table} (h : written? vars "validator" = some written)
      (hr : Document.Json.read written = .ok (.dict id items)) : HoldsObject vars items

theorem lowered_readAll (vars : List (String × String)) :
    ∀ v ∈ ({} : Reading).readAll vars, lowered v.1 = v.1 := by
  intro v hv
  rw [readAll_eq] at hv
  have hname := (names_fieldsOf _).2 v.1 (List.mem_map_of_mem hv)
  rw [List.map_map] at hname
  obtain ⟨u, _, hu⟩ := List.mem_map.mp hname
  rw [← hu]
  exact lowered_lowered u.1

theorem sectionStart_append {leaf : String} (hleaf : lowered leaf = leaf) :
    sectionStart ++ leaf = ({} : Reading).nameOf ("validator__" ++ leaf) := by
  have hmark : lowered "__" = "__" := by decide +kernel
  have hname : "validator__" = "validator" ++ "__" := by decide +kernel
  simp only [sectionStart, nameOf_eq, hname, lowered_append, hmark, hleaf, String.append_assoc]

theorem hasOwn_nested_readAll (vars : List (String × String)) {leaf : String}
    (hleaf : leaf ∈ leafNames) : HasOwn ((({} : Reading).readAll vars).foldl nest []) leaf
      (written? vars ("validator__" ++ leaf)) := by
  have hl := isLeaf_of_mem hleaf
  have h := hasOwn_nested hl (({} : Reading).readAll vars)
  have hnodup : ((({} : Reading).readAll vars).map (·.1)).Nodup := by
    rw [readAll_eq]
    exact (names_fieldsOf _).1
  rwa [field?_reverse hnodup, sectionStart_append hl.lowered, field?_readAll] at h

/-- A section, or none, that is a table and gives a value for a leaf, or a table in its place. -/
def Gives (v? : Option Value) (leaf : String) (x? : Option Value) : Prop :=
  (∀ v, v? = some v → v.IsMapping) ∧
    ∀ t : Layer, Table.lookup? t (.text "validator") = v? → OrTable (t.leaf? leaf) x?

theorem gives_none {leaf : String} {x? : Option Value} (h : OrTable none x?) :
    Gives none leaf x? := by
  refine ⟨nofun, fun t ht => ?_⟩
  rw [Layer.leaf?, ht]
  exact h

theorem gives_respell {t : Table} {leaf : String} {x? : Option Value} (ht : Table.HasTextNames t)
    (hleaf : leaf ∈ leafNames) (h : OrTable ((spelled? t leaf).map (·.2)) x?) :
    Gives (some (respell {} t)) leaf x? := by
  obtain ⟨below, hb, hkeyed, hlookup⟩ := lookup?_respell ht hleaf
  rw [hb]
  refine ⟨fun v hv => ⟨0, ⟨below, hkeyed⟩, (Option.some.inj hv).symm⟩, fun t ht => ?_⟩
  rw [Layer.leaf?, ht]
  rwa [← hlookup] at h

/-- The section that the variables make gives for each leaf what they hold for it. -/
theorem section?_supplies {vars : List (String × String)} {object : Table} {v? : Option Value}
    (ho : HoldsObject vars object)
    (h : section? {} (({} : Reading).readAll vars) = .ok v?) {leaf : String}
    (hleaf : leaf ∈ leafNames) : Gives v? leaf (leaf? vars object leaf) := by
  have hlow := (isLeaf_of_mem hleaf).lowered
  have hown := hasOwn_nested_readAll vars hleaf
  have hnested := isLowered_nested (lowered_readAll vars)
  rw [section?, field?_readAll, nestedValues_eq] at h
  generalize (({} : Reading).readAll vars).foldl nest [] = nested at h hown hnested
  have hnames : Table.HasTextNames nested := fun e he => by
    obtain ⟨n, hn, _⟩ := hnested.names e he
    exact ⟨n, hn⟩
  -- without an object the section is what is nested in the names, and with one that lies over it
  cases ho with
  | unset hunset =>
    rw [hunset] at h
    have hv : (if nested.isEmpty then none else some (respell {} nested)) = v? := Except.ok.inj h
    have hgiven : leaf? vars [] leaf = (written? vars ("validator__" ++ leaf)).map .text := by
      unfold leaf?
      cases written? vars ("validator__" ++ leaf) <;> rfl
    have hor : OrTable (Table.lookup? nested (.text leaf))
        ((written? vars ("validator__" ++ leaf)).map .text) := by
      cases hw : written? vars ("validator__" ++ leaf) with
      | none => rwa [hw] at hown
      | some w =>
        rw [hw] at hown
        exact .inl hown
    rw [hgiven, ← hv]
    by_cases hempty : nested.isEmpty = true
    · rw [if_pos hempty]
      rw [List.isEmpty_iff.mp hempty] at hor
      exact gives_none hor
    · rw [if_neg hempty]
      rw [← spelled?_of_isLowered hnested hlow] at hor
      exact gives_respell hnames hleaf hor
  | set hset hr =>
    have hv : some (respell {} (Layer.overlay object nested)) = v? := by
      rw [hset] at h
      simpa [hr] using h
    have htext := Document.Json.hasTextNames_of_read hr
    rw [← hv]
    exact gives_respell (hasTextNames_overlay htext hnames) hleaf
      (spelled?_overlay_orTable htext hnested hlow hown)

/-- A layer of what is given by name. -/
def given (entries : List (String × Option Value)) : Layer :=
  entries.filterMap fun e => e.2.map fun v => (.text e.1, v)

theorem lookup?_given {entries : List (String × Option Value)} (h : (entries.map (·.1)).Nodup)
    (name : String) : Table.lookup? (given entries) (.text name) = (field? name entries).join := by
  induction entries with
  | nil => rfl
  | cons e entries ih =>
    obtain ⟨hn, h⟩ := List.nodup_cons.mp h
    have ih : Table.lookup? (given entries) (.text name) = (field? name entries).join := ih h
    have hkey := key_text_eq_iff (a := e.1) (b := name)
    obtain ⟨n, _ | v⟩ := e
    · have hg : given ((n, none) :: entries) = given entries := rfl
      rw [hg, ih, field?_cons]
      by_cases hname : n = name
      · have hnone : field? n entries = none := by
          rw [← Option.not_isSome_iff_eq_none, field?_isSome_iff]
          exact hn
        simp [← hname, hnone]
      · simp [hname]
    · have hg : given ((n, some v) :: entries) = (.text n, v) :: given entries := rfl
      rw [hg, Table.lookup?_cons, ih, field?_cons]
      by_cases hname : n = name
      · rw [if_pos (hkey.mpr hname), if_pos hname]
        rfl
      · rw [if_neg fun he => hname (hkey.mp he), if_neg hname]

theorem isKeyed_given {entries : List (String × Option Value)} (h : (entries.map (·.1)).Nodup) :
    Table.IsKeyed (given entries) := by
  refine List.pairwise_filterMap.mpr ((List.pairwise_map.mp h).imp ?_)
  intro m n hne e he f hf hkey
  obtain ⟨u, _, rfl⟩ := Option.map_eq_some_iff.mp he
  obtain ⟨v, _, rfl⟩ := Option.map_eq_some_iff.mp hf
  exact hne (key_text_eq_iff.mp hkey)

theorem layer_supplies {vars : List (String × String)} {object : Table} {t : Layer}
    (ho : HoldsObject vars object) (h : layer {} vars = .ok t) :
    t.IsLayered ∧
      Table.lookup? t (.text "verbose") = (written? vars "verbose").map .text ∧
      Table.lookup? t (.text "log_json") = (written? vars "log_json").map .text ∧
      ∀ leaf ∈ leafNames, OrTable (t.leaf? leaf) (leaf? vars object leaf) := by
  simp only [layer] at h
  obtain ⟨v?, hsection, h⟩ := bind_eq_ok.mp h
  let plain := fun name => plain? {} (({} : Reading).readAll vars) name
  let entries := [("config_path", plain "config_path"), ("verbose", plain "verbose"),
    ("log_json", plain "log_json"), ("validator", v?)]
  have ht : given entries = t := Except.ok.inj h
  have hnames : (entries.map (·.1)).Nodup := by
    show ["config_path", "verbose", "log_json", "validator"].Nodup
    decide
  have hplain : ∀ name, plain name = (written? vars name).map .text := plain?_eq vars
  have hlookup := lookup?_given hnames
  rw [ht] at hlookup
  have hvalidator : Table.lookup? t (.text "validator") = v? := by
    rw [hlookup]
    cases v? <;> rfl
  refine ⟨⟨ht ▸ isKeyed_given hnames, ?_⟩, ?_, ?_, ?_⟩
  · intro v hv
    have hname : "name" ∈ leafNames := List.mem_cons_self
    exact (section?_supplies ho hsection hname).1 v (hvalidator ▸ hv)
  · rw [hlookup, ← hplain]
    rfl
  · rw [hlookup, ← hplain]
    rfl
  · intro leaf hleaf
    exact (section?_supplies ho hsection hleaf).2 t hvalidator

end Environment

end Lifecycle
