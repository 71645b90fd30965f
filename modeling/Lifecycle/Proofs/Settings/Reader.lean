import Lifecycle.Owner
import Lifecycle.Proofs.Template
import Lifecycle.Validation

namespace Lifecycle

open Act (settings)

namespace Act

variable {α β : Type} {w : World}

/-- An operation that neither gets hold of settings nor lets go of them, and changes nothing that they
are read from. -/
def Unread (x : Act α) : Prop := ∀ w,
  (x.run.run w).2.cached = w.cached ∧ (x.run.run w).2.surroundings = w.surroundings

theorem Unread.settings?_eq {x : Act α} (h : x.Unread) (w : World) :
    (x.run.run w).2.settings? = w.settings? := by
  rw [World.settings?, (h w).1, (h w).2, World.settings?]

theorem unread_pure (a : α) : Unread (pure a) := fun _ => ⟨rfl, rfl⟩

theorem unread_throw (f : Fault) : Unread (throw f : Act α) := fun _ => ⟨rfl, rfl⟩

theorem unread_ofExcept (e : Except Fault α) : Unread (ofExcept e) := fun _ => ⟨rfl, rfl⟩

theorem unread_current (v : Value) : Unread (current v) := fun _ => ⟨rfl, rfl⟩

theorem unread_log (e : Log.Event) : Unread (log e) := fun _ => ⟨rfl, rfl⟩

theorem unread_leave (v : Value) (rest : List Value → List Value) : Unread (leave v rest) := by
  unfold leave
  split
  · unfold note
    split <;> exact fun _ => ⟨rfl, rfl⟩
  · exact unread_pure _

theorem Unread.bind {x : Act α} {f : α → Act β} (hx : x.Unread) (hf : ∀ a, (f a).Unread) :
    (x >>= f).Unread := by
  intro w
  have hw := hx w
  rw [run_bind]
  rcases hrun : x.run.run w with ⟨_ | a, v⟩
  · rwa [hrun] at hw
  · rw [hrun] at hw
    exact ⟨((hf a) v).1.trans hw.1, ((hf a) v).2.trans hw.2⟩

theorem unread_compile (on rules : Value) : Unread (compile on rules) := by
  have hdeclare : Unread (declare on) := (unread_current on).bind fun on =>
    (unread_leave on _).bind fun _ => unread_ofExcept _
  have hexpand : Unread (expand on rules) := hdeclare.bind fun d =>
    (unread_current rules).bind fun rules => (unread_leave rules _).bind fun _ =>
      (unread_ofExcept _).bind fun e => (unread_log _).bind fun _ => unread_pure e
  exact hexpand.bind fun e => unread_pure _

theorem ask_run {β : Type} (g : Settings → β) (w : World) :
    (do return g (← settings) : Act β).run.run w = match w.settings? with
    | .ok s => (.ok (g s), w.holding s)
    | .error f => (.error f, w) := by
  rw [run_bind, settings_run]
  cases w.settings? <;> rfl

end Act

namespace Template

variable {keys : Table} {segment : Segment} {segments : List Segment}

def showsAbsent (keys : Table) : Segment → Bool
  | .literal _ => false
  | .placeholder name => match Table.lookup? keys (.text (String.ofList name)) with
    | some .none => true
    | _ => false

def isUnshown (keys : Table) : Segment → Bool
  | .literal _ => false
  | .placeholder name => match Table.lookup? keys (.text (String.ofList name)) with
    | some v => v.textFault?.isSome
    | none => false

/-- Whether an absent value is come to, where segments are shown up to the first that cannot be. -/
def reachesAbsent (keys : Table) (segments : List Segment) : Bool :=
  (segments.takeWhile fun p => !isUnshown keys p).any (showsAbsent keys)

theorem segmentText_of_absent {m : Type → Type} [Monad m] (display : Value → m String)
    (h : showsAbsent keys segment = true) : segmentText display keys segment = display .none := by
  cases segment with
  | literal c => cases h
  | placeholder name =>
    simp only [showsAbsent] at h
    simp only [segmentText, fill]
    split at h
    next hl => rw [hl]
    next => cases h

theorem isUnshown_of_absent (h : showsAbsent keys segment = true) :
    isUnshown keys segment = false := by
  cases segment with
  | literal c => rfl
  | placeholder name =>
    simp only [showsAbsent] at h
    simp only [isUnshown]
    split at h
    next hl =>
      rw [hl]
      rfl
    next => cases h

theorem segmentText_of_present (token : Except Fault String)
    (h : showsAbsent keys segment = false) :
    segmentText Act.display keys segment =
      Act.ofExcept (segmentText (Value.shownWith token) keys segment) := by
  cases segment with
  | literal c => rfl
  | placeholder name =>
    simp only [showsAbsent] at h
    simp only [segmentText, fill]
    cases hl : Table.lookup? keys (.text (String.ofList name)) with
    | none => rfl
    | some v =>
      rw [hl] at h
      cases v with
      | none => cases h
      | _ => rfl

theorem isUnshown_of_present (token : Except Fault String) (h : showsAbsent keys segment = false) :
    isUnshown keys segment = true ↔
      ∃ f, segmentText (Value.shownWith token) keys segment = .error f := by
  cases segment with
  | literal c => simp [isUnshown, segmentText]
  | placeholder name =>
    simp only [showsAbsent] at h
    simp only [isUnshown, segmentText, fill]
    cases hl : Table.lookup? keys (.text (String.ofList name)) with
    | none => simp
    | some v =>
      rw [hl] at h
      have hshown : v.shownWith token = v.shown := by
        cases v with
        | none => cases h
        | _ => rfl
      simp only [hshown, Value.shown]
      cases v.textFault? <;> simp

theorem reachesAbsent_cons_of_absent (h : showsAbsent keys segment = true) :
    reachesAbsent keys (segment :: segments) = true := by
  simp [reachesAbsent, isUnshown_of_absent h, h]

theorem reachesAbsent_cons_of_present (h : showsAbsent keys segment = false) :
    reachesAbsent keys (segment :: segments) =
      (!isUnshown keys segment && reachesAbsent keys segments) := by
  cases hu : isUnshown keys segment <;> simp [reachesAbsent, hu, h]

theorem mapM_of_reachesAbsent {f : Fault} (h : reachesAbsent keys segments = true) :
    segments.mapM (segmentText (Value.shownWith (.error f)) keys) = .error f := by
  induction segments with
  | nil => cases h
  | cons segment segments ih =>
    rw [List.mapM_cons]
    cases ha : showsAbsent keys segment with
    | true =>
      rw [segmentText_of_absent _ ha]
      rfl
    | false =>
      rw [reachesAbsent_cons_of_present ha, Bool.and_eq_true, Bool.not_eq_true'] at h
      cases ht : segmentText (Value.shownWith (.error f)) keys segment with
      | error g =>
        have hu := (isUnshown_of_present (.error f) ha).mpr ⟨g, ht⟩
        rw [hu] at h
        cases h.1
      | ok text =>
        rw [ok_bind, ih h.2]
        rfl

end Template

namespace Act

variable {w : World} {keys : Table}

theorem display_of_ne_none {v : Value} (h : v ≠ .none) : display v = ofExcept v.shown := by
  cases v with
  | none => exact absurd rfl h
  | _ => rfl

theorem displayed_of_settings {v : World} (h : v.settings? = w.settings?) :
    v.displayed = w.displayed := by
  unfold World.displayed
  rw [h]

/-- Segments are shown as they are in the world given, and the settings are got hold of if an absent value
is come to. -/
theorem mapM_run (w : World) (segments : List Segment) :
    (segments.mapM (Template.segmentText display keys)).run.run w =
      (segments.mapM (Template.segmentText w.displayed keys),
        if Template.reachesAbsent keys segments then (settings.run.run w).2 else w) := by
  induction segments generalizing w with
  | nil => rfl
  | cons segment segments ih =>
    rw [List.mapM_cons, List.mapM_cons, run_bind]
    cases ha : Template.showsAbsent keys segment with
    | true =>
      rw [Template.segmentText_of_absent _ ha, Template.segmentText_of_absent _ ha,
        Template.reachesAbsent_cons_of_absent ha, if_pos rfl, settings_run]
      have hhead : display .none = (do return (← settings).validator.absentToken) := rfl
      rw [hhead, ask_run]
      cases hs : w.settings? with
      | error f =>
        have htoken : w.displayed .none = .error f := by
          simp [World.displayed, Value.shownWith, hs, Except.map]
        rw [htoken]
        rfl
      | ok s =>
        have htoken : w.displayed .none = .ok s.validator.absentToken := by
          simp [World.displayed, Value.shownWith, hs, Except.map]
        -- the others go on from the world that the first leaves, in which the settings are the same
        have hsame : (w.holding s).settings? = w.settings? := hs.symm
        rw [htoken]
        dsimp only
        rw [run_bind, ih, displayed_of_settings hsame, settings_run, hsame, hs, ok_bind]
        cases segments.mapM (Template.segmentText w.displayed keys) <;>
          cases Template.reachesAbsent keys segments <;> rfl
    | false =>
      have hhead : Template.segmentText display keys segment =
          ofExcept (Template.segmentText w.displayed keys segment) :=
        Template.segmentText_of_present _ ha
      have hunshown : Template.isUnshown keys segment = true ↔
          ∃ f, Template.segmentText w.displayed keys segment = .error f :=
        Template.isUnshown_of_present _ ha
      rw [hhead, Template.reachesAbsent_cons_of_present ha]
      cases ht : Template.segmentText w.displayed keys segment with
      | error f =>
        rw [hunshown.mpr ⟨f, ht⟩]
        rfl
      | ok text =>
        have hshown : Template.isUnshown keys segment = false := by
          rw [Bool.eq_false_iff, ne_eq, hunshown, ht]
          rintro ⟨f, hf⟩
          cases hf
        have hrun : (ofExcept (.ok text)).run.run w = (.ok text, w) := rfl
        rw [hrun, hshown]
        dsimp only
        rw [run_bind, ih, ok_bind]
        cases segments.mapM (Template.segmentText w.displayed keys) <;> rfl

theorem render_run (template : String) (keys : Table) (w : World) :
    (render template keys).run.run w = (Template.render w.displayed template keys,
      if Template.reachesAbsent keys (Template.segments template.toList)
      then (settings.run.run w).2 else w) := by
  rw [render, Template.render, Template.render, run_bind, mapM_run]
  cases (Template.segments template.toList).mapM (Template.segmentText w.displayed keys) <;> rfl

end Act

namespace Options

def orDefault {α : Type} (given : List (String × Value)) (name : String)
    (coerce : Value → Except IssueKind α) (default : α) : Checked α :=
  match field? name given with
  | some v => Checked.ofExcept [.name name] (coerce v)
  | none => Checked.ok default

def under (s : Settings) (given : List (String × Value)) : Except Fault Options :=
  let required := orDefault given "required" Coercion.truth s.validator.required
  let message := orDefault given "message" Coercion.text s.validator.message
  let strategy := (field? "using" given).getD .none
  (((required.both message).map fun (r, m) => (⟨r, m, strategy⟩ : Options)).also
    (unknownNames given)).result

variable {α : Type} {given : List (String × Value)} {name : String}
  {coerce : Value → Except IssueKind α} {g : Settings → α} {w : World} {s : Settings} {f : Fault}

theorem option_of_given {v : Value} (h : field? name given = some v) (default : Act α) :
    option given name coerce default = pure (Checked.ofExcept [.name name] (coerce v)) := by
  rw [option, h]

theorem option_run_of_ok (h : w.settings? = .ok s) :
    (option given name coerce (do return g (← settings))).run.run w =
      (.ok (orDefault given name coerce (g s)),
        if (field? name given).isNone then w.holding s else w) := by
  unfold option orDefault
  cases field? name given with
  | some v => rfl
  | none =>
    dsimp only
    rw [Act.run_bind, Act.ask_run, h]
    rfl

theorem option_run_of_error (h : w.settings? = .error f) (hn : field? name given = none) :
    (option given name coerce (do return g (← settings))).run.run w = (.error f, w) := by
  unfold option
  rw [hn]
  dsimp only
  rw [Act.run_bind, Act.ask_run, h]

theorem make_run_of_ok (h : w.settings? = .ok s) (given : List (String × Value)) :
    (make given).run.run w = (under s given,
      if (field? "required" given).isNone || (field? "message" given).isNone then w.holding s
      else w) := by
  unfold make
  rw [Act.run_bind, option_run_of_ok h]
  dsimp only
  cases field? "required" given with
  | none =>
    rw [Option.isNone_none, if_pos rfl, Bool.true_or, if_pos rfl]
    rw [Act.run_bind, option_run_of_ok (World.settings?_holding (w := w))]
    cases field? "message" given <;> rfl
  | some v =>
    rw [Option.isNone_some, if_neg Bool.false_ne_true, Bool.false_or]
    rw [Act.run_bind, option_run_of_ok h]
    cases field? "message" given <;> rfl

theorem make_run_of_error (h : w.settings? = .error f)
    (hn : field? "required" given = none ∨ field? "message" given = none) :
    (make given).run.run w = (.error f, w) := by
  unfold make
  cases hr : field? "required" given with
  | none => rw [Act.run_bind, option_run_of_error h hr]
  | some v =>
    have hm : field? "message" given = none := hn.resolve_left (by simp [hr])
    rw [option_of_given hr, pure_bind, Act.run_bind, option_run_of_error h hm]

theorem unread_make (hr : (field? "required" given).isSome) (hm : (field? "message" given).isSome) :
    Act.Unread (make given) := by
  obtain ⟨required, hr⟩ := Option.isSome_iff_exists.mp hr
  obtain ⟨message, hm⟩ := Option.isSome_iff_exists.mp hm
  unfold make
  rw [option_of_given hr, option_of_given hm, pure_bind, pure_bind]
  exact Act.unread_ofExcept _

end Options

theorem Owner.decorate_run {d : Owner.Decoration} {m : Matcher} {v w : World} (c : Owner)
    (hname : d.name.truth = false) (hrun : (Act.compile d.on d.rules).run.run w = (.ok m, v)) :
    (c.decorate d).run.run w = match w.settings? with
      | .ok s => (.ok (c.install s.validator.name m), v.holding s)
      | .error f => (.error f, v) := by
  have hkeeps := (Act.unread_compile d.on d.rules).settings?_eq w
  have hask : Owner.decorationName d.name = (do return (← Act.settings).validator.name) :=
    if_neg (by simp [hname])
  rw [hrun] at hkeeps
  rw [Owner.decorate, Act.run_bind, hrun]
  dsimp only
  rw [hask, Act.run_bind, Act.ask_run, hkeeps]
  cases w.settings? <;> rfl

/-- The operations that may ask for the settings, by what they come to: the settings themselves, the
options of a check, the strategy that a specification stands for, a class with rules put on it, a value
shown, a message, and a log set up. -/
inductive Reader : Type → Type where
  | settings : Reader Settings
  | options (given : List (String × Value)) : Reader Options
  | strategy (spec : Value) : Reader Strategy
  | decoration (c : Owner) (d : Owner.Decoration) : Reader Owner
  | display (v : Value) : Reader String
  | message (template : String) (keys : Table) : Reader String
  | log : Reader Unit

namespace Reader

variable {α : Type}

def act : Reader α → Act α
  | settings => Act.settings
  | options given => Options.make given
  | strategy spec => Strategy.resolve spec
  | decoration c d => c.decorate d
  | display v => Act.display v
  | message template keys => Act.render template keys
  | log => Act.configureLogFromSettings

/-- An operation does come to ask for the settings: an option is not given, a strategy is the default
one, the rules compile and are put on without a name, or an absent value is shown. -/
def Reads : Reader α → World → Prop
  | settings, _ => True
  | options given, _ => field? "required" given = none ∨ field? "message" given = none
  | strategy spec, _ => spec = .none
  | decoration _ d, w =>
    d.name.truth = false ∧ ∃ m, ((Act.compile d.on d.rules).run.run w).1 = .ok m
  | display v, _ => v = .none
  | message template keys, _ =>
    Template.reachesAbsent keys (Template.segments template.toList) = true
  | log, _ => True

/-- What an operation that asks for the settings does with them. -/
def answer : Reader α → Settings → Act α
  | settings, s => pure s
  | options given, s => Act.ofExcept (Options.under s given)
  | strategy _, s => pure (.recordMethod (.text s.validator.name))
  | decoration c d, s => do return c.install s.validator.name (← Act.compile d.on d.rules)
  | display _, s => pure s.validator.absentToken
  | message template keys, s =>
    Act.ofExcept (Template.render (Value.shownWith (.ok s.validator.absentToken)) template keys)
  | log, s => Act.configureLog ⟨s.verbose, s.logJson⟩

variable {r : Reader α} {w : World} {s : Settings} {f : Fault}

theorem run_of_ok (h : r.Reads w) (hs : w.settings? = .ok s) :
    r.act.run.run w = Prod.map id (World.holding · s) ((r.answer s).run.run w) := by
  -- each asks for the settings once, after what it does without them
  cases r with
  | settings =>
    show Act.settings.run.run w = _
    rw [Act.settings_run, hs]
    rfl
  | options given =>
    have hmissing : ((field? "required" given).isNone || (field? "message" given).isNone) = true := by
      simpa [Reads] using h
    show (Options.make given).run.run w = _
    rw [Options.make_run_of_ok hs, if_pos hmissing]
    rfl
  | strategy spec =>
    cases h
    show (Strategy.resolve .none).run.run w = _
    unfold Strategy.resolve
    dsimp only
    rw [Act.ask_run, hs]
    rfl
  | decoration c d =>
    obtain ⟨hname, m, hm⟩ := h
    have hrun : (Act.compile d.on d.rules).run.run w =
        (.ok m, ((Act.compile d.on d.rules).run.run w).2) := Prod.ext hm rfl
    rw [act, Owner.decorate_run c hname hrun, hs, answer, Act.run_bind, hrun]
    rfl
  | display v =>
    cases h
    show Act.absentToken.run.run w = _
    rw [Act.absentToken, Act.ask_run, hs]
    rfl
  | message template keys =>
    show (Act.render template keys).run.run w = _
    have htoken : w.displayed = Value.shownWith (.ok s.validator.absentToken) := by
      unfold World.displayed
      rw [hs]
      rfl
    rw [Act.render_run, if_pos (show _ = true from h), Act.settings_run, hs, htoken]
    rfl
  | log =>
    show Act.configureLogFromSettings.run.run w = _
    unfold Act.configureLogFromSettings
    rw [Act.run_bind, Act.settings_run, hs]
    rfl

/-- A failure to read the settings is what the operation comes to, and leaves nothing behind. -/
theorem run_of_error (h : r.Reads w) (hf : w.settings? = .error f) :
    (r.act.run.run w).1 = .error f ∧ (r.act.run.run w).2.cached = w.cached := by
  cases r with
  | settings =>
    show (Act.settings.run.run w).1 = _ ∧ _
    rw [act, Act.settings_run, hf]
    exact ⟨rfl, rfl⟩
  | options given =>
    rw [act, Options.make_run_of_error hf h]
    exact ⟨rfl, rfl⟩
  | strategy spec =>
    cases h
    rw [act, Strategy.resolve, Act.ask_run, hf]
    exact ⟨rfl, rfl⟩
  | decoration c d =>
    obtain ⟨hname, m, hm⟩ := h
    have hrun : (Act.compile d.on d.rules).run.run w =
        (.ok m, ((Act.compile d.on d.rules).run.run w).2) := Prod.ext hm rfl
    rw [act, Owner.decorate_run c hname hrun, hf]
    exact ⟨rfl, (Act.unread_compile d.on d.rules w).1⟩
  | display v =>
    cases h
    rw [act, Act.display, Act.absentToken, Act.ask_run, hf]
    exact ⟨rfl, rfl⟩
  | message template keys =>
    have htoken : w.displayed = Value.shownWith (.error f) := by
      unfold World.displayed
      rw [hf]
      rfl
    have hreaches : Template.reachesAbsent keys (Template.segments template.toList) = true := h
    rw [act, Act.render_run, if_pos hreaches, Act.settings_run, hf, htoken, Template.render,
      Template.mapM_of_reachesAbsent hreaches]
    exact ⟨rfl, rfl⟩
  | log =>
    rw [act, Act.configureLogFromSettings, Act.run_bind, Act.settings_run, hf]
    exact ⟨rfl, rfl⟩

theorem unread_resolve {spec : Value} (h : spec ≠ .none) : (Strategy.resolve spec).Unread := by
  unfold Strategy.resolve
  split
  · exact absurd rfl h
  · exact Act.unread_pure _
  · exact Act.unread_pure _
  · split
    · exact Act.unread_throw _
    · refine (Act.unread_current _).bind fun extra => (Act.unread_leave extra _).bind fun _ => ?_
      split
      · exact Act.unread_pure _
      · exact Act.unread_throw _
  · exact Act.unread_throw _
  · split
    · exact Act.unread_pure _
    · split
      · exact Act.unread_pure _
      · exact Act.unread_throw _

theorem cached_of_not_reads (h : ¬ r.Reads w) : (r.act.run.run w).2.cached = w.cached := by
  cases r with
  | settings => exact absurd trivial h
  | options given =>
    obtain ⟨hr, hm⟩ := not_or.mp h
    exact (Options.unread_make (Option.isSome_iff_ne_none.mpr hr)
      (Option.isSome_iff_ne_none.mpr hm) w).1
  | strategy spec => exact (unread_resolve h w).1
  | decoration c d =>
    have hkeeps := Act.unread_compile d.on d.rules
    by_cases hname : d.name.truth = false
    · have hcached := (hkeeps w).1
      rw [act, Owner.decorate, Act.run_bind]
      rcases hrun : (Act.compile d.on d.rules).run.run w with ⟨_ | m, v⟩
      · rwa [hrun] at hcached
      · exact absurd ⟨hname, m, by rw [hrun]⟩ h
    · have hnamed : (Owner.decorationName d.name).Unread := by
        rw [Owner.decorationName, if_pos (Bool.not_eq_false _ ▸ hname)]
        split
        · exact Act.unread_pure _
        · exact Act.unread_throw _
      exact ((hkeeps.bind fun m => hnamed.bind fun name => Act.unread_pure _) w).1
  | display v =>
    rw [act, Act.display_of_ne_none h]
    rfl
  | message template keys =>
    have hno : ¬ Template.reachesAbsent keys (Template.segments template.toList) = true := h
    rw [act, Act.render_run, if_neg hno]
  | log => exact absurd trivial h

end Reader

end Lifecycle
