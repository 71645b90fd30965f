import Lifecycle.Proofs.Foreign
import Lifecycle.Proofs.Routes
import Lifecycle.Proofs.Validation
import Lifecycle.Proofs.Watched

namespace Lifecycle

variable {v extra spec : Value} {w : World} {f : Fault}

namespace Value

theorem isForeign_placesFault? (h : v.placesFault? = some f) : f.isOwn = false := by
  obtain ⟨i, _, hi⟩ := List.exists_of_findSome?_eq_some h
  cases hc : v.callBriefly [int i] with
  | ok x => simp [hc] at hi
  | error e =>
    simp only [hc, Option.some.injEq] at hi
    exact hi ▸ isForeign_callBriefly v [int i] e hc

theorem isForeign_iterationFault? (h : v.iterationFault? = some f) : f.isOwn = false := by
  unfold iterationFault? at h
  split at h
  · split at h <;> cases h <;> rfl
  · cases h

theorem isForeign_drawFault (v : Value) {undeclared : Fault} (h : undeclared.isOwn = false) :
    (v.drawFault undeclared).isOwn = false := by
  have hunfit : (Fault.misuse (.notIterable v.longTypeName)).isOwn = false := rfl
  unfold drawFault
  split
  · cases hi : v.iterationFault? with
    | none => exact hunfit
    | some e => exact isForeign_iterationFault? hi
  · split
    · rfl
    next =>
      dsimp only
      generalize hp : placesFault? _ = p
      cases p with
      | none => exact hunfit
      | some e => exact isForeign_placesFault? hp
  · exact h

theorem text?_of_isCallable (h : v.isCallable = true) : v.text? = Option.none := by
  cases v <;> first | rfl | cases h

end Value

namespace Strategy

/-- What a specification stands for: the query of the settings, the strategy or the rules that it is,
the query that it names, a target with an operation and arguments, or a predicate that it is. -/
inductive StandsFor (w : World) : Value → Strategy → Prop
  | unnamed {s : Settings} (h : w.settings? = .ok s) :
    StandsFor w .none (.recordMethod (.text s.validator.name))
  | strategy (id : Nat) (s : Strategy) : StandsFor w (.strategy id s) s
  | matcher (m : Matcher) : StandsFor w (.matcher m) (.matcher (.matcher m))
  | named {v : Value} {name : String} (h : v.text? = some name) : StandsFor w v (.recordMethod v)
  | external {target operation extra : Value} {name : String} {xs : List Value}
    (ho : operation.text? = some name) (hx : (w.current extra).elements? = some xs) :
    StandsFor w (.tuple [target, operation, extra]) (.external target operation (.tuple xs))
  | called {v : Value} (hm : ∀ m, v ≠ .matcher m) (hc : v.isCallable = true) :
    StandsFor w v (.predicate v)

/-- A specification has the shape of no strategy. -/
inductive Malformed : Value → Fault → Prop
  | tuple {xs : List Value}
    (h : ∀ target operation extra, xs = [target, operation, extra] → operation.text? = none) :
    Malformed (.tuple xs) (.notAnExternal (.tuple xs))
  | other {v : Value} (hn : v ≠ .none) (hs : ∀ id s, v ≠ .strategy id s) (hx : ∀ xs, v ≠ .tuple xs)
    (ht : v.text? = none) (hc : v.isCallable = false) : Malformed v (.notAStrategy v)

/-- A specification names a target and an operation, with something that has no elements to give as
arguments. -/
inductive Undrawable (w : World) : Value → Value → Prop
  | intro {target operation extra : Value} {name : String} (ho : operation.text? = some name)
    (hx : (w.current extra).elements? = none) :
    Undrawable w (.tuple [target, operation, extra]) (w.current extra)

/-- Every specification stands for a strategy, unless it has the shape of none, the settings that it
needs cannot be read, or arguments cannot be drawn from it. -/
theorem standsFor_cases (spec : Value) (w : World) :
    (∃ s, StandsFor w spec s) ∨ (∃ f, Malformed spec f) ∨
      (spec = .none ∧ ∃ f, w.settings? = .error f) ∨ ∃ extra, Undrawable w spec extra := by
  -- in the order of resolving: a tuple goes by its shape, text is a name, and what can be called is called
  by_cases htuple : ∃ xs, spec = .tuple xs
  · obtain ⟨xs, rfl⟩ := htuple
    by_cases hshape : ∃ target operation extra name,
        xs = [target, operation, extra] ∧ operation.text? = some name
    · obtain ⟨target, operation, extra, name, rfl, ho⟩ := hshape
      cases hx : (w.current extra).elements? with
      | some xs => exact .inl ⟨_, .external ho hx⟩
      | none => exact .inr (.inr (.inr ⟨_, .intro ho hx⟩))
    · refine .inr (.inl ⟨_, .tuple fun target operation extra hxs => ?_⟩)
      cases ho : operation.text? with
      | none => rfl
      | some name => exact absurd ⟨target, operation, extra, name, hxs, ho⟩ hshape
  cases ht : spec.text? with
  | some name => exact .inl ⟨_, .named ht⟩
  | none =>
    cases hc : spec.isCallable with
    | true =>
      by_cases hm : ∃ m, spec = .matcher m
      · obtain ⟨m, rfl⟩ := hm
        exact .inl ⟨_, .matcher m⟩
      · exact .inl ⟨_, .called (fun m h => hm ⟨m, h⟩) hc⟩
    | false =>
      cases spec with
      | none =>
        cases hs : w.settings? with
        | ok s => exact .inl ⟨_, .unnamed hs⟩
        | error f => exact .inr (.inr (.inl ⟨rfl, f, rfl⟩))
      | strategy id s => exact .inl ⟨_, .strategy id s⟩
      | tuple xs => exact absurd ⟨xs, rfl⟩ htuple
      | _ => exact .inr (.inl ⟨_, .other nofun nofun nofun ht hc⟩)

theorem resolve_of_other (hn : v ≠ .none) (hs : ∀ id s, v ≠ .strategy id s)
    (hm : ∀ m, v ≠ .matcher m) (hx : ∀ xs, v ≠ .tuple xs) : resolve v =
      if v.text?.isSome then pure (.recordMethod v)
      else if v.isCallable then pure (.predicate v)
      else throw (.notAStrategy v) := by
  cases v with
  | none => exact absurd rfl hn
  | strategy id s => exact absurd rfl (hs id s)
  | matcher m => exact absurd rfl (hm m)
  | tuple xs => exact absurd rfl (hx xs)
  | _ => rfl

theorem resolve_tuple {target operation : Value} {name : String} (h : operation.text? = some name) :
    (resolve (.tuple [target, operation, extra])).run.run w = (do
      Act.leave (w.current extra) fun _ => []
      match (w.current extra).elements? with
      | some xs => return .external target operation (.tuple xs)
      | none => throw ((w.current extra).drawFault
          (.misuse (.notIterable (w.current extra).longTypeName))) : Act Strategy).run.run w := by
  have hsome : operation.text?.isNone = false := by rw [h]; rfl
  simp only [resolve, hsome, Bool.false_eq_true, if_false]
  rfl

theorem resolve_of_standsFor {s : Strategy} (h : StandsFor w spec s) :
    ∃ w', (resolve spec).run.run w = (.ok s, w') := by
  cases h with
  | @unnamed settings h =>
    obtain ⟨w', hrun, _⟩ := Act.steady_settings w (.refl w)
    refine ⟨w', ?_⟩
    rw [resolve, Act.run_bind, hrun, h]
    rfl
  | strategy id s => exact ⟨w, rfl⟩
  | matcher m => exact ⟨w, rfl⟩
  | named h =>
    rw [resolve_of_text? h]
    exact ⟨w, rfl⟩
  | @external target operation extra name xs ho hx =>
    obtain ⟨w', hleave⟩ := Act.leave_run (w.current extra) (fun _ => []) w
    refine ⟨w', ?_⟩
    rw [resolve_tuple ho, Act.run_bind, hleave, hx]
    rfl
  | called hm hc =>
    refine ⟨w, ?_⟩
    -- what is looked at before cannot be called, but for matchers
    have hother : ∀ v : Value, v.isCallable = false → spec ≠ v := by
      rintro v hv rfl
      rw [hv] at hc
      contradiction
    rw [resolve_of_other (hother _ rfl) (fun _ _ => hother _ rfl) hm (fun _ => hother _ rfl),
      Value.text?_of_isCallable hc, hc]
    rfl

theorem resolve_of_malformed (h : Malformed spec f) : (resolve spec).run.run w = (.error f, w) := by
  cases h with
  | @tuple xs h =>
    unfold resolve
    split
    next heq => cases heq
    next heq => cases heq
    next heq => cases heq
    next target operation extra heq =>
      rw [h target operation extra (Value.tuple.inj heq)]
      rfl
    next => rfl
    next hno => exact absurd rfl (hno xs)
  | other hn hs hx ht hc =>
    have hm : ∀ m, spec ≠ .matcher m := by
      rintro m rfl
      cases hc
    rw [resolve_of_other hn hs hm hx, ht, hc]
    rfl

theorem resolve_of_undrawable (h : Undrawable w spec extra) :
    (resolve spec).run.run w =
      (.error (extra.drawFault (.misuse (.notIterable extra.longTypeName))), w) := by
  cases h with
  | @intro target operation extra name ho hx =>
    have hleave : (Act.leave (w.current extra) fun _ => []) = (pure () : Act Unit) := by
      unfold Act.leave
      split
      next h => rw [h] at hx; cases hx
      next => rfl
    rw [resolve_tuple ho, hleave, hx]
    rfl

end Strategy

section

variable {τ : Type} [Tracker τ] {field : Value} {given : List (String × Value)} {o : Options}
  {w₀ w₁ : World} {t : τ}

/-- The tracker is left as it is, and asked nothing, when the strategy is not resolved. -/
theorem validateField_of_unresolved
    (hfree : needFreeNames "validate_transition" ["changeset", "field"] given = .ok ())
    (hmake : (Options.make given).run.run w = (.ok o, w₀))
    (hres : (Strategy.resolve o.strategy).run.run w₀ = (.error f, w₁)) :
    ((validateField field given : Check τ Unit).runOn t).run w = ((.error f, t), w₁) := by
  have hnames : ((Check.ofExcept (needFreeNames "validate_transition" ["changeset", "field"] given) :
      Check τ Unit).runOn t).run w = ((.ok (), t), w) := by
    rw [hfree]
    rfl
  have hoptions : ((liftM (Options.make given) : Check τ Options).runOn t).run w =
      ((.ok o, t), w₀) := by
    rw [Check.lift_run, hmake]
  have hstrategy : ((liftM (Strategy.resolve o.strategy) : Check τ Strategy).runOn t).run w₀ =
      ((.error f, t), w₁) := by
    rw [Check.lift_run, hres]
  have hcheck : ((checkField field o : Check τ Outcome).runOn t).run w₀ = ((.error f, t), w₁) := by
    rw [checkField, Check.run_bind, hstrategy]
  rw [validateField, Check.run_bind, hnames]
  show ((liftM (Options.make given) >>= validateWith field : Check τ Unit).runOn t).run w = _
  rw [Check.run_bind, hoptions]
  show ((validateWith field o : Check τ Unit).runOn t).run w₀ = _
  rw [validateWith, Check.run_bind, hcheck]

end

namespace Strategy

/-- A specification is resolved to the strategy that it stands for, or refused as malformed. Besides,
what has no elements cannot give arguments, which is told in terms of that value, and without settings
there is no default. What goes wrong here goes wrong with validation, given options that are in order,
before the tracker is asked anything. -/
theorem resolve_outcome {τ : Type} [Tracker τ] (spec : Value) (w : World) :
    (∀ s, StandsFor w spec s → ∃ w', (resolve spec).run.run w = (.ok s, w')) ∧
    (∀ f, Malformed spec f → (resolve spec).run.run w = (.error f, w)) ∧
    (∀ extra, Undrawable w spec extra → ∃ f, f.isOwn = false ∧
      (resolve spec).run.run w = (.error f, w)) ∧
    ((∃ s, StandsFor w spec s) ∨ (∃ f, Malformed spec f) ∨ (∃ extra, Undrawable w spec extra) ∨
      spec = .none ∧ ∃ f w', w.settings? = .error f ∧ (resolve spec).run.run w = (.error f, w')) ∧
    ∀ (field : Value) (given : List (String × Value)) (o : Options) (f : Fault) (t : τ)
      (rs : List Request) (w₀ w₁ : World),
      needFreeNames "validate_transition" ["changeset", "field"] given = .ok () →
      (Options.make given).run.run w₀ = (.ok o, w) → (field? "using" given).getD .none = spec →
      (resolve spec).run.run w = (.error f, w₁) →
      ((validateField field given : Check τ Unit).runOn t).run w₀ = ((.error f, t), w₁) ∧
        ((validateField field given : Check (Watched τ) Unit).runOn ⟨t, rs⟩).run w₀ =
          ((.error f, ⟨t, rs⟩), w₁) := by
  refine ⟨fun s hs => resolve_of_standsFor hs, fun f hf => resolve_of_malformed hf,
    fun extra hx => ⟨_, extra.isForeign_drawFault rfl, resolve_of_undrawable hx⟩, ?_, ?_⟩
  · rcases standsFor_cases spec w with hs | hf | ⟨rfl, f, hsettings⟩ | hx
    · exact .inl hs
    · exact .inr (.inl hf)
    · obtain ⟨w', hrun, _⟩ := Act.steady_settings w (.refl w)
      refine .inr (.inr (.inr ⟨rfl, f, w', hsettings, ?_⟩))
      rw [resolve, Act.run_bind, hrun, hsettings]
    · exact .inr (.inr (.inl hx))
  · intro field given o f t rs w₀ w₁ hfree hmake husing hres
    rw [← husing, ← (Options.of_make hmake).1] at hres
    exact ⟨validateField_of_unresolved hfree hmake hres, validateField_of_unresolved hfree hmake hres⟩

/-- A target with an operation and no arguments is malformed, and told as that. -/
theorem resolve_outcome_pair :
    let spec : Value := .tuple [.text "a", .text "x"]
    let given : List (String × Value) := [("using", spec)]
    let w : World := { cached := some {} }
    let t : Changeset := Changeset.new (.dict 0 [(.text "state", .text "a")]) (.dict 0 []) .none
    Malformed spec (.notAnExternal spec) ∧
      (resolve spec).run.run w = (.error (.notAnExternal spec), w) ∧
      ((validateField (.text "state") given : Check (Watched Changeset) Unit).runOn ⟨t, []⟩).run w =
        ((.error (.notAnExternal spec), ⟨t, []⟩), w) := by
  intro spec given w t
  have hmalformed : Malformed spec (.notAnExternal spec) := .tuple nofun
  obtain ⟨_, hrefused, _, _, hvalidate⟩ := resolve_outcome (τ := Changeset) spec w
  have hres : (resolve spec).run.run w = (.error (.notAnExternal spec), w) := hrefused _ hmalformed
  refine ⟨hmalformed, hres, ?_⟩
  exact (hvalidate (.text "state") given _ _ t [] w w rfl rfl rfl hres).2

/-- A number in the place of the arguments is not told as a malformed strategy. -/
theorem resolve_undrawable_number :
    let spec : Value := .tuple [.text "a", .text "x", .int 5]
    let w : World := {}
    ∃ f, (resolve spec).run.run w = (.error f, w) ∧ f = .misuse (.notIterable "int") ∧
      f ≠ .notAStrategy spec ∧ f ≠ .notAnExternal spec :=
  ⟨_, rfl, rfl, nofun, nofun⟩

end Strategy

end Lifecycle
