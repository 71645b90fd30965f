import Lifecycle.Proofs.Success
import Lifecycle.Settings.Discovery

namespace Lifecycle

namespace Place

def step (here : Place) (name : String) : Place :=
  if name = ".." then here.dropLast else here ++ [name]

/-- Of a directory and those above it, the deepest with a property. -/
structure IsDeepest (here : Place) (P : Place → Prop) (d : Place) : Prop where
  above : d <+: here
  has : P d
  deepest : ∀ e, e <+: here → d.length < e.length → ¬ P e

variable {here d e : Place} {P Q : Place → Prop}

theorem IsDeepest.eq (h : here.IsDeepest P d) (h' : here.IsDeepest P e) : d = e := by
  have hlen : d.length = e.length := by
    have hde := h.deepest e h'.above
    have hed := h'.deepest d h.above
    have := h.has
    have := h'.has
    grind
  rw [List.prefix_iff_eq_take.mp h.above, List.prefix_iff_eq_take.mp h'.above, hlen]

theorem isDeepest_congr (h : ∀ e, e <+: here → (P e ↔ Q e)) :
    here.IsDeepest P d ↔ here.IsDeepest Q d := by
  constructor
  · intro hd
    exact ⟨hd.above, (h d hd.above).mp hd.has, fun e he hlt hq => hd.deepest e he hlt ((h e he).mpr hq)⟩
  · intro hd
    exact ⟨hd.above, (h d hd.above).mpr hd.has, fun e he hlt hp => hd.deepest e he hlt ((h e he).mp hp)⟩

theorem mem_ancestors : d ∈ here.ancestors ↔ d <+: here := by
  rw [ancestors, List.mem_map]
  constructor
  · rintro ⟨up, _, rfl⟩
    exact List.take_prefix _ _
  · intro h
    refine ⟨here.length - d.length, List.mem_range.mpr (by omega), ?_⟩
    have hle : d.length ≤ here.length := h.length_le
    rw [Nat.sub_sub_self hle]
    exact (List.prefix_iff_eq_take.mp h).symm

theorem pairwise_ancestors (here : Place) :
    here.ancestors.Pairwise fun d e => e.length < d.length := by
  rw [ancestors, List.pairwise_map]
  refine List.pairwise_lt_range.imp_of_mem ?_
  intro a b ha hb hab
  have hle := List.mem_range.mp hb
  rw [List.length_take, List.length_take]
  omega

end Place

namespace Files

/-- Where a path leads from a directory. Every step is taken from a directory that is there. -/
inductive Leads (fs : Files) : Place → List String → Place → Prop where
  | here (place : Place) : Leads fs place [] place
  | step {place goal : Place} {name : String} {rest : List String}
      (there : isDirectory fs place = true) (on : Leads fs (place.step name) rest goal) :
      Leads fs place (name :: rest) goal

def MeetsLongName (fs : Files) (here : Place) (parts : List String) : Prop :=
  ∃ before name after place, parts = before ++ name :: after ∧ Leads fs here before place ∧
    isDirectory fs place = true ∧ nameLimit < name.utf8ByteSize

variable {fs : Files} {here goal : Place} {name : String} {parts : List String}

theorem leads_cons :
    Leads fs here (name :: parts) goal ↔
      isDirectory fs here = true ∧ Leads fs (here.step name) parts goal := by
  constructor
  · rintro (_ | ⟨there, on⟩)
    exact ⟨there, on⟩
  · rintro ⟨there, on⟩
    exact .step there on

theorem Leads.eq_foldl (h : Leads fs here parts goal) : goal = parts.foldl Place.step here := by
  induction h with
  | here place => rfl
  | step there on ih => exact ih

theorem meetsLongName_cons :
    MeetsLongName fs here (name :: parts) ↔ isDirectory fs here = true ∧
      (nameLimit < name.utf8ByteSize ∨ MeetsLongName fs (here.step name) parts) := by
  constructor
  · rintro ⟨before, long, after, place, hparts, hleads, hd, hlong⟩
    cases before with
    | nil =>
      cases hparts
      cases hleads
      exact ⟨hd, .inl hlong⟩
    | cons first before =>
      cases hparts
      obtain ⟨there, on⟩ := leads_cons.mp hleads
      exact ⟨there, .inr ⟨before, long, after, place, rfl, on, hd, hlong⟩⟩
  · rintro ⟨hd, hlong | ⟨before, long, after, place, rfl, hleads, hd', hlong⟩⟩
    · exact ⟨[], name, parts, here, rfl, .here here, hd, hlong⟩
    · exact ⟨name :: before, long, after, place, rfl, .step hd hleads, hd', hlong⟩

/-- What comes of following a path. -/
theorem follow_outcome (fs : Files) (here : Place) (parts : List String) :
    match follow fs here parts with
    | .overlong => MeetsLongName fs here parts
    | .leads goal => ¬ MeetsLongName fs here parts ∧ Leads fs here parts goal
    | .lost => ¬ MeetsLongName fs here parts ∧ ∀ goal, ¬ Leads fs here parts goal := by
  induction parts generalizing here with
  | nil =>
    refine ⟨?_, .here here⟩
    rintro ⟨before, name, after, _, hparts, _⟩
    cases before <;> cases hparts
  | cons name parts ih =>
    have hstep : follow fs here (name :: parts) =
        if !isDirectory fs here then .lost
        else if nameLimit < name.utf8ByteSize then .overlong
        else follow fs (here.step name) parts := by
      rw [follow, Place.step]
      by_cases hup : name = ".." <;> simp [hup]
    rw [hstep]
    simp only [meetsLongName_cons, leads_cons]
    by_cases hd : isDirectory fs here = true
    · by_cases hlong : nameLimit < name.utf8ByteSize
      · simp [hd, hlong]
      · simpa [hd, hlong] using ih (here.step name)
    · simp [hd]

end Files

theorem Path.ofText_of_name {s : String} (hslash : '/' ∉ s.toList) (hne : s ≠ "") (hdot : s ≠ ".") :
    Path.ofText s = ⟨0, [s]⟩ := by
  have hstart : s.toList.takeWhile (· = '/') = [] := by
    cases hs : s.toList with
    | nil => rfl
    | cons c cs =>
      have hc : c ≠ '/' := fun h => hslash (by simp [hs, h])
      simp [hc]
  rw [ofText, hstart, Search.splitAll_of_not_mem hslash]
  simp [hne, hdot]

theorem Path.toText_of_name (name : String) : (Path.mk 0 [name]).toText = name := by
  simp [toText]

theorem Path.hasNull_eq_false {p : Path} :
    p.hasNull = false ↔ ∀ part ∈ p.parts, '\x00' ∉ part.toList := by
  simp [hasNull]

theorem Path.resolve_eq_foldl (cwd : Place) (p : Path) :
    p.resolve cwd = p.parts.foldl Place.step (Files.start cwd p) := rfl

namespace Surroundings

/-- A regular file lies where a path leads. No name has a null character in it. -/
def HasFile (s : Surroundings) (p : Path) : Prop :=
  p.hasNull = false ∧ ∃ place text, Files.Leads s.files (Files.start s.cwd p) p.parts place ∧
    Files.fileAt? s.files place = some text

/-- A path is too long as a whole to be followed, or comes to a name that is. -/
def IsTooLong (s : Surroundings) (p : Path) : Prop :=
  p.hasNull = false ∧ (Files.pathLimit ≤ p.toText.utf8ByteSize ∨
    Files.MeetsLongName s.files (Files.start s.cwd p) p.parts)

def configIn (d : Place) : Path := Place.path (d ++ [configFileName])

/-- A search for the configuration file does not go on above a directory: the file is there, or what its
path would be is too long. -/
def EndsAt (s : Surroundings) (d : Place) : Prop :=
  s.HasFile (configIn d) ∨ s.IsTooLong (configIn d)

variable {s : Surroundings} {p : Path} {here : Place} {origin : Origin}

theorem hasFile_of_leads (hnull : p.hasNull = false)
    (hleads : Files.Leads s.files (Files.start s.cwd p) p.parts here) :
    s.HasFile p ↔ (Files.fileAt? s.files here).isSome = true := by
  rw [Option.isSome_iff_exists]
  constructor
  · rintro ⟨_, place, text, hplace, htext⟩
    rw [hplace.eq_foldl, ← hleads.eq_foldl] at htext
    exact ⟨text, htext⟩
  · rintro ⟨text, htext⟩
    exact ⟨hnull, here, text, hleads, htext⟩

theorem HasFile.isSome (h : s.HasFile p) :
    (Files.fileAt? s.files (p.resolve s.cwd)).isSome = true := by
  obtain ⟨_, place, text, hleads, htext⟩ := h
  rw [Path.resolve_eq_foldl, ← hleads.eq_foldl, htext]
  rfl

theorem not_isTooLong (hsize : p.toText.utf8ByteSize < Files.pathLimit)
    (hnames : ∀ name ∈ p.parts, name.utf8ByteSize ≤ Files.nameLimit) : ¬ s.IsTooLong p := by
  rintro ⟨_, hlong | ⟨before, name, after, _, hparts, _, _, hlong⟩⟩
  · omega
  · have := hnames name (by simp [hparts])
    omega

theorem read?_outcome (s : Surroundings) (p : Path) :
    (s.IsTooLong p ∧ Files.read? s.files s.cwd p = .error (.longPath p.toText)) ∨
      (¬ s.IsTooLong p ∧ ∃ text?, Files.read? s.files s.cwd p = .ok text? ∧
        (s.HasFile p ↔ text?.isSome = true)) := by
  unfold Files.read?
  by_cases hnull : p.hasNull = true
  · rw [if_pos hnull]
    exact .inr ⟨fun h => by simp [h.1] at hnull, none, rfl, fun h => by simp [h.1] at hnull, nofun⟩
  have hfree : p.hasNull = false := by simpa using hnull
  rw [if_neg hnull]
  by_cases hsize : Files.pathLimit ≤ p.toText.utf8ByteSize
  · rw [if_pos hsize]
    exact .inl ⟨⟨hfree, .inl hsize⟩, rfl⟩
  rw [if_neg hsize]
  -- a path that is short enough as a whole may still lead over a name that is too long
  have hfollow := Files.follow_outcome s.files (Files.start s.cwd p) p.parts
  cases htrail : Files.follow s.files (Files.start s.cwd p) p.parts with
  | overlong =>
    rw [htrail] at hfollow
    exact .inl ⟨⟨hfree, .inr hfollow⟩, rfl⟩
  | lost =>
    rw [htrail] at hfollow
    refine .inr ⟨fun h => h.2.elim hsize hfollow.1, none, rfl, ?_, nofun⟩
    rintro ⟨_, place, _, hleads, _⟩
    exact absurd hleads (hfollow.2 place)
  | leads goal =>
    rw [htrail] at hfollow
    obtain ⟨hmeets, hleads⟩ := hfollow
    exact .inr ⟨fun h => h.2.elim hsize hmeets, _, rfl, hasFile_of_leads hfree hleads⟩

theorem existing?_outcome (s : Surroundings) (p : Path) :
    (s.IsTooLong p ∧ s.existing? p = .error (.longPath p.toText)) ∨
      (¬ s.IsTooLong p ∧ s.HasFile p ∧ s.existing? p = .ok (some p)) ∨
      (¬ s.IsTooLong p ∧ ¬ s.HasFile p ∧ s.existing? p = .ok none) := by
  unfold existing? isFile Files.isFile
  rcases s.read?_outcome p with ⟨hlong, hread⟩ | ⟨hshort, text?, hread, hfile⟩
  · rw [hread]
    exact .inl ⟨hlong, rfl⟩
  · rw [hread]
    cases text? with
    | none => exact .inr (.inr ⟨hshort, fun h => Bool.false_ne_true (hfile.mp h), rfl⟩)
    | some text => exact .inr (.inl ⟨hshort, hfile.mpr rfl, rfl⟩)

theorem existing?_eq_error_iff {f : Fault} :
    s.existing? p = .error f ↔ s.IsTooLong p ∧ f = .longPath p.toText := by
  rcases s.existing?_outcome p with ⟨hlong, he⟩ | ⟨hshort, _, he⟩ | ⟨hshort, _, he⟩
  · simp [he, hlong, eq_comm]
  · simp [he, hshort]
  · simp [he, hshort]

theorem existing?_of_hasFile (hshort : ¬ s.IsTooLong p) (hfile : s.HasFile p) :
    s.existing? p = .ok (some p) := by
  rcases s.existing?_outcome p with ⟨hlong, _⟩ | ⟨_, _, he⟩ | ⟨_, hno, _⟩
  · exact absurd hlong hshort
  · exact he
  · exact absurd hfile hno

theorem existing?_of_not_hasFile (hshort : ¬ s.IsTooLong p) (hno : ¬ s.HasFile p) :
    s.existing? p = .ok none := by
  rcases s.existing?_outcome p with ⟨hlong, _⟩ | ⟨_, hfile, _⟩ | ⟨_, _, he⟩
  · exact absurd hlong hshort
  · exact absurd hfile hno
  · exact he

theorem firstConfig?_of_not_endsAt {d : Place} (h : ¬ s.EndsAt d) (places : List Place) :
    s.firstConfig? (d :: places) = s.firstConfig? places := by
  have hnone : s.existing? (Place.path (d ++ [configFileName])) = .ok none :=
    existing?_of_not_hasFile (fun hlong => h (.inr hlong)) fun hfile => h (.inl hfile)
  rw [firstConfig?, hnone, ok_bind]

theorem firstConfig?_of_endsAt {d : Place} (h : s.EndsAt d) (places : List Place) :
    s.firstConfig? (d :: places) = s.existing? (configIn d) := by
  rw [firstConfig?]
  change s.existing? (configIn d) >>= _ = _
  rcases s.existing?_outcome (configIn d) with ⟨_, hf⟩ | ⟨_, _, hp⟩ | ⟨hlong, hfile, _⟩
  · rw [hf, error_bind]
  · rw [hp, ok_bind]
    rfl
  · exact absurd h (not_or.mpr ⟨hfile, hlong⟩)

/-- The first directory at which the search ends decides what it comes to. -/
theorem firstConfig?_outcome (s : Surroundings) (places : List Place) :
    (∃ before d after, places = before ++ d :: after ∧ (∀ e ∈ before, ¬ s.EndsAt e) ∧ s.EndsAt d ∧
      s.firstConfig? places = s.existing? (configIn d)) ∨
      ((∀ d ∈ places, ¬ s.EndsAt d) ∧ s.firstConfig? places = .ok none) := by
  induction places with
  | nil => exact .inr ⟨by simp, rfl⟩
  | cons d places ih =>
    by_cases hd : s.EndsAt d
    · exact .inl ⟨[], d, places, rfl, by simp, hd, firstConfig?_of_endsAt hd places⟩
    · rw [firstConfig?_of_not_endsAt hd]
      rcases ih with ⟨before, e, after, rfl, hbefore, he, hfirst⟩ | ⟨hnone, hfirst⟩
      · refine .inl ⟨d :: before, e, after, rfl, ?_, he, hfirst⟩
        exact List.forall_mem_cons.mpr ⟨hd, hbefore⟩
      · exact .inr ⟨List.forall_mem_cons.mpr ⟨hd, hnone⟩, hfirst⟩

/-- From a directory on upwards that is the deepest at which the search ends. -/
theorem nearestConfig?_outcome (s : Surroundings) (here : Place) :
    (∃ d, here.IsDeepest s.EndsAt d ∧ s.nearestConfig? here = s.existing? (configIn d)) ∨
      ((∀ d, d <+: here → ¬ s.EndsAt d) ∧ s.nearestConfig? here = .ok none) := by
  rcases s.firstConfig?_outcome here.ancestors with
    ⟨before, d, after, hsplit, hbefore, hd, hfirst⟩ | ⟨hnone, hfirst⟩
  · refine .inl ⟨d, ⟨?_, hd, ?_⟩, hfirst⟩
    · rw [← Place.mem_ancestors, hsplit]
      simp
    · intro e he hlt
      have horder := here.pairwise_ancestors
      rw [← Place.mem_ancestors, hsplit] at he
      rw [hsplit] at horder
      rcases List.mem_append.mp he with he | he
      · exact hbefore e he
      · rcases List.mem_cons.mp he with rfl | he
        · omega
        · have hafter := (List.pairwise_append.mp horder).2.1
          have := (List.pairwise_cons.mp hafter).1 e he
          omega
  · exact .inr ⟨fun d hd => hnone d (Place.mem_ancestors.mpr hd), hfirst⟩

theorem nearestConfig?_eq_error {f : Fault} :
    s.nearestConfig? here = .error f ↔ ∃ d, here.IsDeepest s.EndsAt d ∧
      s.IsTooLong (configIn d) ∧ f = .longPath (configIn d).toText := by
  rcases s.nearestConfig?_outcome here with ⟨d, hd, hsearch⟩ | ⟨hnone, hsearch⟩
  · rw [hsearch, existing?_eq_error_iff]
    constructor
    · exact fun h => ⟨d, hd, h⟩
    · rintro ⟨e, he, h⟩
      rwa [hd.eq he]
  · rw [hsearch]
    constructor
    · intro h
      cases h
    · rintro ⟨d, hd, _⟩
      exact absurd hd.has (hnone d hd.above)

theorem nearestConfig?_of_short (hshort : ∀ d, d <+: here → ¬ s.IsTooLong (configIn d)) :
    (∀ p, s.nearestConfig? here = .ok (some p) ↔
      ∃ d, here.IsDeepest (fun e => s.HasFile (configIn e)) d ∧ p = configIn d) ∧
    (s.nearestConfig? here = .ok none ↔ ∀ d, d <+: here → ¬ s.HasFile (configIn d)) := by
  -- no path on the way is too long, so the search ends at files only
  have hends : ∀ d, d <+: here → (s.EndsAt d ↔ s.HasFile (configIn d)) :=
    fun d hd => or_iff_left (hshort d hd)
  simp only [← Place.isDeepest_congr hends]
  rcases s.nearestConfig?_outcome here with ⟨d, hd, hsearch⟩ | ⟨hnone, hsearch⟩
  · have hfile : s.HasFile (configIn d) := (hends d hd.above).mp hd.has
    rw [hsearch, existing?_of_hasFile (hshort d hd.above) hfile]
    refine ⟨fun p => ⟨?_, ?_⟩, ⟨?_, ?_⟩⟩
    · intro h
      cases h
      exact ⟨d, hd, rfl⟩
    · rintro ⟨e, he, rfl⟩
      rw [hd.eq he]
    · intro h
      cases h
    · intro hno
      exact absurd hfile (hno d hd.above)
  · rw [hsearch]
    refine ⟨fun p => ⟨?_, ?_⟩, ⟨?_, fun _ => rfl⟩⟩
    · intro h
      cases h
    · rintro ⟨d, hd, _⟩
      exact absurd hd.has (hnone d hd.above)
    · intro _ d hd hfile
      exact hnone d hd ((hends d hd).mpr hfile)

theorem findConfig?_of_written {written : String}
    (h : s.valueOf? configVariable = some written) (hne : written ≠ "") :
    s.findConfig? origin = s.existing? (Path.ofText written) := by
  unfold findConfig?
  rw [h]
  exact if_neg hne

theorem findConfig?_of_unset
    (h : s.valueOf? configVariable = none ∨ s.valueOf? configVariable = some "")
    (hplace : origin.place s.cwd = .ok here) : s.findConfig? origin = s.nearestConfig? here := by
  have hsearch : findConfig?.search s origin = s.nearestConfig? here := by
    unfold findConfig?.search
    rw [hplace, ok_bind]
  unfold findConfig?
  rcases h with h | h
  · rw [h]
    exact hsearch
  · rw [h]
    exact (if_pos rfl).trans hsearch

theorem place_of_leads (hnull : p.hasNull = false)
    (h : Files.Leads s.files (Files.start s.cwd p) p.parts here) :
    (Origin.path p).place s.cwd = .ok here := by
  rw [h.eq_foldl, ← Path.resolve_eq_foldl]
  exact if_neg (by simp [hnull])

/-- A variable that is set names the configuration file, or there is none, wherever the search would
begin. Otherwise it is the file of the deepest directory, of the one where the search begins and those
above it, that has one. Only a path that is too long to be followed is a fault: the one that the variable
names, or that of the file in the deepest directory that has one or has too long a path for it. -/
theorem findConfig?_nearest (s : Surroundings) (origin : Origin) :
    (∀ written, s.valueOf? configVariable = some written → written ≠ "" →
      (s.IsTooLong (Path.ofText written) →
        s.findConfig? origin = .error (.longPath (Path.ofText written).toText)) ∧
      (¬ s.IsTooLong (Path.ofText written) →
        (s.HasFile (Path.ofText written) →
          s.findConfig? origin = .ok (some (Path.ofText written))) ∧
        (¬ s.HasFile (Path.ofText written) → s.findConfig? origin = .ok none))) ∧
    (s.valueOf? configVariable = none ∨ s.valueOf? configVariable = some "" →
      ∀ here, origin.place s.cwd = .ok here →
        ((∀ d, d <+: here → ¬ s.IsTooLong (configIn d)) →
          (∀ p, s.findConfig? origin = .ok (some p) ↔
            ∃ d, here.IsDeepest (fun e => s.HasFile (configIn e)) d ∧ p = configIn d) ∧
          (s.findConfig? origin = .ok none ↔ ∀ d, d <+: here → ¬ s.HasFile (configIn d))) ∧
        ∀ f, s.findConfig? origin = .error f ↔ ∃ d, here.IsDeepest s.EndsAt d ∧
          s.IsTooLong (configIn d) ∧ f = .longPath (configIn d).toText) ∧
    Origin.here.place s.cwd = .ok s.cwd ∧
    ∀ p here, p.hasNull = false → Files.Leads s.files (Files.start s.cwd p) p.parts here →
      (Origin.path p).place s.cwd = .ok here := by
  refine ⟨?_, ?_, rfl, fun p here => place_of_leads⟩
  · intro written h hne
    rw [findConfig?_of_written h hne]
    exact ⟨fun hlong => existing?_eq_error_iff.mpr ⟨hlong, rfl⟩, fun hshort =>
      ⟨existing?_of_hasFile hshort, existing?_of_not_hasFile hshort⟩⟩
  · intro hunset here hplace
    rw [findConfig?_of_unset hunset hplace]
    exact ⟨nearestConfig?_of_short, fun f => nearestConfig?_eq_error⟩

/-- A directory of the file's name is passed over on the way up, and the file above it found. A variable
that names no file keeps it from being looked for. -/
theorem findConfig?_nearest_above :
    let files : Files := [(["app", configFileName], .file ""), (["app", "pkg", configFileName], .directory)]
    let s : Surroundings := { files, cwd := ["app"] }
    let named : Surroundings := { s with vars := [(configVariable, "none.toml")] }
    let here : Place := ["app", "pkg"]
    let origin : Origin := .path ⟨0, ["pkg"]⟩
    (s.valueOf? configVariable = none ∧ origin.place s.cwd = .ok here ∧
      (∀ d, d <+: here → ¬ s.IsTooLong (configIn d)) ∧
      here.IsDeepest (fun e => s.HasFile (configIn e)) ["app"] ∧
      s.findConfig? origin = .ok (some ⟨1, ["app", configFileName]⟩)) ∧
    named.valueOf? configVariable = some "none.toml" ∧ ¬ named.IsTooLong (Path.ofText "none.toml") ∧
      ¬ named.HasFile (Path.ofText "none.toml") ∧ named.findConfig? origin = .ok none := by
  intro files s named here origin
  have habove : ∀ d, d <+: here → d = ["app", "pkg"] ∨ d = ["app"] ∨ d = [] := by
    intro d hd
    have hall : here.ancestors = [["app", "pkg"], ["app"], []] := rfl
    simpa [hall] using Place.mem_ancestors.mpr hd
  have hshort : ∀ d, d <+: here → ¬ s.IsTooLong (configIn d) := by
    intro d hd
    rcases habove d hd with rfl | rfl | rfl
    all_goals exact not_isTooLong (by decide +kernel) (by decide +kernel)
  have happ : s.HasFile (configIn ["app"]) :=
    ⟨Path.hasNull_eq_false.mpr (by decide), ["app", configFileName], "",
      .step rfl (.step rfl (.here _)), rfl⟩
  have hpkg : ¬ s.HasFile (configIn ["app", "pkg"]) := fun h => Bool.false_ne_true h.isSome
  have hdeepest : here.IsDeepest (fun e => s.HasFile (configIn e)) ["app"] := by
    refine ⟨by decide, happ, ?_⟩
    intro e he hlt
    rcases habove e he with rfl | rfl | rfl
    · exact hpkg
    · exact absurd hlt (by decide)
    · exact absurd hlt (by decide)
  have hplace : origin.place s.cwd = .ok here :=
    place_of_leads (Path.hasNull_eq_false.mpr (by decide)) (.step rfl (.here _))
  have hunset : s.valueOf? configVariable = none := rfl
  have hset : named.valueOf? configVariable = some "none.toml" := rfl
  have hname : Path.ofText "none.toml" = ⟨0, ["none.toml"]⟩ :=
    Path.ofText_of_name (by decide) (by decide) (by decide)
  have hmissing : ¬ named.IsTooLong (Path.ofText "none.toml") := by
    rw [hname]
    exact not_isTooLong (by decide +kernel) (by decide +kernel)
  have hno : ¬ named.HasFile (Path.ofText "none.toml") := by
    rw [hname]
    exact fun h => Bool.false_ne_true h.isSome
  refine ⟨⟨hunset, hplace, hshort, hdeepest, ?_⟩, hset, hmissing, hno, ?_⟩
  · exact ((((s.findConfig?_nearest origin).2.1 (.inl hunset) here hplace).1 hshort).1 _).mpr
      ⟨_, hdeepest, rfl⟩
  · exact (((named.findConfig?_nearest origin).1 _ hset (by decide)).2 hmissing).2 hno

/-- A name of more than 255 bytes is that of no file, but a fault all the same. -/
theorem findConfig?_long_name :
    let long := String.ofList (List.replicate 256 'x')
    let s : Surroundings := { vars := [(configVariable, long)] }
    s.valueOf? configVariable = some long ∧ long ≠ "" ∧ ¬ s.HasFile (Path.ofText long) ∧
      s.findConfig? .here = .error (.longPath long) := by
  intro long s
  have hmem : ∀ c, c ∈ long.toList → c = 'x' := by
    intro c hc
    rw [String.toList_ofList, List.mem_replicate] at hc
    exact hc.2
  have hpath : Path.ofText long = ⟨0, [long]⟩ := by
    apply Path.ofText_of_name
    · exact fun hc => absurd (hmem _ hc) (by decide)
    · decide +kernel
    · decide +kernel
  have hwritten : s.valueOf? configVariable = some long := by decide +kernel
  have hfree : (Path.mk 0 [long]).hasNull = false := by
    rw [Path.hasNull_eq_false]
    intro part hpart hc
    rw [List.mem_singleton.mp hpart] at hc
    exact absurd (hmem _ hc) (by decide)
  have hlong : s.IsTooLong (Path.ofText long) := by
    rw [hpath]
    exact ⟨hfree, .inr ⟨[], long, [], [], rfl, .here [], rfl, by decide +kernel⟩⟩
  have hne : long ≠ "" := by decide +kernel
  refine ⟨hwritten, hne, ?_, ?_⟩
  · rintro ⟨_, place, text, _, htext⟩
    cases htext
  · rw [findConfig?_of_written hwritten hne, existing?_eq_error_iff.mpr ⟨hlong, rfl⟩, hpath,
      Path.toText_of_name]

end Surroundings

end Lifecycle
