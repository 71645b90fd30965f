import Lifecycle.Proofs.Judging
import Lifecycle.Proofs.Watched

namespace Lifecycle

variable {τ α β : Type}

/-- An operation on a tracker in a world comes to a result, and leaves a tracker and a world. -/
def Check.Gives (x : Check τ α) (t : τ) (w : World) (r : Except Fault α) (t' : τ) (w' : World) :
    Prop :=
  (x.runOn t).run w = ((r, t'), w')

theorem Check.lift_gives {x : Act α} {t t' : τ} {w w' : World} {r : Except Fault α} :
    (liftM x : Check τ α).Gives t w r t' w' ↔ x.run.run w = (r, w') ∧ t = t' := by
  rw [Gives, lift_run]
  rcases x.run.run w with ⟨r₁, w₁⟩
  constructor
  · intro h
    cases h
    exact ⟨rfl, rfl⟩
  · rintro ⟨h, rfl⟩
    cases h
    rfl

theorem Check.ofExcept_gives {x : Except Fault α} {t t' : τ} {w w' : World} {r : Except Fault α} :
    (Check.ofExcept x).Gives t w r t' w' ↔ x = r ∧ t = t' ∧ w = w' := by
  have hx : ((Check.ofExcept x).runOn t).run w = ((x, t), w) := rfl
  rw [Gives, hx, Prod.mk.injEq, Prod.mk.injEq, and_assoc]

section Observed

/-- What an operation asks of a watched tracker, and what comes of it, is as said. Watching changes
nothing of what comes of it. -/
def Observed (x : Check (Watched τ) α) (y : Check τ α) (t : τ) (rs : List Request) (w : World)
    (course : List Request → (Except Fault α × τ) × World → Prop) : Prop :=
  ∃ asked, course asked ((y.runOn t).run w) ∧
    (x.runOn ⟨t, rs⟩).run w = Watched.seen ((y.runOn t).run w) (rs ++ asked)

variable {x : Check (Watched τ) α} {y : Check τ α} {f : α → Check (Watched τ) β} {g : α → Check τ β}
  {t : τ} {rs : List Request} {w : World}

/-- One operation after the other: the course goes on from what the first one gives, unless it fails. -/
theorem Observed.bind {first : List Request → (Except Fault α × τ) × World → Prop}
    {course : List Request → (Except Fault β × τ) × World → Prop} (h : Observed x y t rs w first)
    (herror : ∀ asked e t' w', first asked ((.error e, t'), w') → course asked ((.error e, t'), w'))
    (hok : ∀ asked a t' w', first asked ((.ok a, t'), w') →
      Observed (f a) (g a) t' (rs ++ asked) w' fun more r => course (asked ++ more) r) :
    Observed (x >>= f) (y >>= g) t rs w course := by
  obtain ⟨asked, hfirst, hrun⟩ := h
  unfold Observed
  rw [Check.run_bind, Check.run_bind, hrun]
  generalize (y.runOn t).run w = r at hfirst ⊢
  rcases r with ⟨⟨e | a, t'⟩, w'⟩
  · exact ⟨asked, herror asked e t' w' hfirst, rfl⟩
  · obtain ⟨more, hcourse, hmore⟩ := hok asked a t' w' hfirst
    rw [List.append_assoc] at hmore
    exact ⟨asked ++ more, hcourse, hmore⟩

theorem Asks.observed {may : List Request → Prop} (h : Asks x y may) :
    Observed x y t rs w fun asked r => may asked ∧ y.Gives t w r.1.1 r.1.2 r.2 := by
  obtain ⟨asked, hmay, hrun⟩ := h t rs w
  exact ⟨asked, ⟨hmay, rfl⟩, hrun⟩

theorem Observed.of_quiet {course : List Request → (Except Fault α × τ) × World → Prop} (h : Quiet x y)
    (hcourse : course [] ((y.runOn t).run w)) : Observed x y t rs w course := by
  obtain ⟨_, rfl, hrun⟩ := h t rs w
  exact ⟨[], hcourse, hrun⟩

end Observed

variable [Tracker τ]

namespace Course

/-- The strategy is resolved, and the tracker says whether the field has changed. -/
inductive Opened (field : Value) (o : Options) (t : τ) (w : World) (s : Strategy) (changed : Bool)
    (t₁ : τ) (w₁ : World) : Prop
  | intro {w₀ : World} {v : Value} (hs : (Strategy.resolve o.strategy).run.run w = (.ok s, w₀))
    (hc : (Tracker.hasChange field).Gives t w₀ (.ok v) t₁ w₁) (hv : v.truthOf = .ok changed)

/-- The field is to be judged, and the tracker gives its new value and then the original one. -/
inductive Fetched (field : Value) (o : Options) (t : τ) (w : World) (s : Strategy) (old new : Value)
    (t₃ : τ) (w₃ : World) : Prop
  | intro {changed : Bool} {t₁ t₂ : τ} {w₁ w₂ : World} (h : Opened field o t w s changed t₁ w₁)
    (hm : (changed || o.required) = true)
    (hn : (Tracker.getField field).Gives t₁ w₁ (.ok new) t₂ w₂)
    (ho : (Tracker.getOriginal field).Gives t₂ w₂ (.ok old) t₃ w₃)

end Course

open Course

/-- The courses that the check of a field can take: what it asks of the tracker, and what comes of
it. -/
inductive Course (field : Value) (name : String) (o : Options) (t : τ) (w : World) :
    List Request → (Except Fault Outcome × τ) × World → Prop
  | unresolved {e : Fault} {w₀ : World}
    (hs : (Strategy.resolve o.strategy).run.run w = (.error e, w₀)) :
    Course field name o t w [] ((.error e, t), w₀)
  | changeFault {s : Strategy} {e : Fault} {t₁ : τ} {w₀ w₁ : World}
    (hs : (Strategy.resolve o.strategy).run.run w = (.ok s, w₀))
    (hc : (Tracker.hasChange field).Gives t w₀ (.error e) t₁ w₁) :
    Course field name o t w [.hasChange field] ((.error e, t₁), w₁)
  | truthFault {s : Strategy} {v : Value} {e : Fault} {t₁ : τ} {w₀ w₁ : World}
    (hs : (Strategy.resolve o.strategy).run.run w = (.ok s, w₀))
    (hc : (Tracker.hasChange field).Gives t w₀ (.ok v) t₁ w₁) (hv : v.truthOf = .error e) :
    Course field name o t w [.hasChange field] ((.error e, t₁), w₁)
  | skipped {s : Strategy} {t₁ : τ} {w₁ : World} (h : Opened field o t w s false t₁ w₁)
    (hr : o.required = false) :
    Course field name o t w [.hasChange field] ((.ok ⟨name, true, true, .none, .none⟩, t₁), w₁)
  | newFault {s : Strategy} {changed : Bool} {e : Fault} {t₁ t₂ : τ} {w₁ w₂ : World}
    (h : Opened field o t w s changed t₁ w₁) (hm : (changed || o.required) = true)
    (hn : (Tracker.getField field).Gives t₁ w₁ (.error e) t₂ w₂) :
    Course field name o t w [.hasChange field, .getField field] ((.error e, t₂), w₂)
  | oldFault {s : Strategy} {changed : Bool} {new : Value} {e : Fault} {t₁ t₂ t₃ : τ}
    {w₁ w₂ w₃ : World} (h : Opened field o t w s changed t₁ w₁) (hm : (changed || o.required) = true)
    (hn : (Tracker.getField field).Gives t₁ w₁ (.ok new) t₂ w₂)
    (ho : (Tracker.getOriginal field).Gives t₂ w₂ (.error e) t₃ w₃) :
    Course field name o t w [.hasChange field, .getField field, .getOriginal field]
      ((.error e, t₃), w₃)
  | judgeFault {s : Strategy} {old new : Value} {inside : List Request} {e : Fault} {t₃ t₄ : τ}
    {w₃ w₄ : World} (h : Fetched field o t w s old new t₃ w₃) (hi : s.Inside old new inside)
    (hj : (s.evaluate old new).Gives t₃ w₃ (.error e) t₄ w₄) :
    Course field name o t w
      ([.hasChange field, .getField field, .getOriginal field] ++ s.own ++ inside)
      ((.error e, t₄), w₄)
  | verdictFault {s : Strategy} {old new verdict : Value} {inside : List Request} {kind : IssueKind}
    {t₃ t₄ : τ} {w₃ w₄ : World} (h : Fetched field o t w s old new t₃ w₃)
    (hi : s.Inside old new inside) (hj : (s.evaluate old new).Gives t₃ w₃ (.ok verdict) t₄ w₄)
    (hv : Coercion.truth verdict = .error kind) :
    Course field name o t w
      ([.hasChange field, .getField field, .getOriginal field] ++ s.own ++ inside)
      ((.error (.rejected [Issue.at "allowed" kind]), t₄), w₄)
  | judged {s : Strategy} {old new verdict : Value} {inside : List Request} {allowed : Bool}
    {t₃ t₄ : τ} {w₃ w₄ : World} (h : Fetched field o t w s old new t₃ w₃)
    (hi : s.Inside old new inside) (hj : (s.evaluate old new).Gives t₃ w₃ (.ok verdict) t₄ w₄)
    (hv : Coercion.truth verdict = .ok allowed) :
    Course field name o t w
      ([.hasChange field, .getField field, .getOriginal field] ++ s.own ++ inside)
      ((.ok ⟨name, allowed, false, w₄.current old, w₄.current new⟩, t₄), w₄)

theorem checkField_observed {field : Value} {name : String} (hname : field.text? = some name)
    (o : Options) (t : τ) (rs : List Request) (w : World) :
    Observed (checkField field o) (checkField field o) t rs w (Course field name o t w) := by
  unfold checkField
  -- step by step: a failure is a course that ends there, and what a step gives is handed on
  apply Observed.bind (quiet_lift _).observed
  · rintro _ e t' w₀ ⟨rfl, hs⟩
    obtain ⟨hres, rfl⟩ := Check.lift_gives.mp hs
    exact .unresolved hres
  rintro _ s t' w₀ ⟨rfl, hs⟩
  obtain ⟨hres, rfl⟩ := Check.lift_gives.mp hs
  apply Observed.bind (asks_pass [.hasChange field] (Tracker.hasChange field)).observed
  · rintro _ e t₁ w₁ ⟨rfl, hc⟩
    exact .changeFault hres hc
  rintro _ v t₁ w₁ ⟨rfl, hc⟩
  apply Observed.bind (quiet_ofExcept _).observed
  · rintro _ e t' w' ⟨rfl, hv⟩
    obtain ⟨htruth, rfl, rfl⟩ := Check.ofExcept_gives.mp hv
    exact .truthFault hres hc htruth
  rintro _ changed t' w' ⟨rfl, hv⟩
  obtain ⟨htruth, rfl, rfl⟩ := Check.ofExcept_gives.mp hv
  have hopened : Opened field o t w s changed t₁ w₁ := .intro hres hc htruth
  by_cases hskip : (!changed && !o.required) = true
  · obtain ⟨rfl, hr⟩ : changed = false ∧ o.required = false := by simpa using hskip
    rw [if_pos hskip, if_pos hskip, Outcome.make_skipped hname]
    apply Observed.of_quiet (quiet_ofExcept _)
    exact .skipped hopened hr
  have hmust : (changed || o.required) = true := by
    rw [← Bool.not_or, Bool.not_eq_true', Bool.not_eq_false] at hskip
    exact hskip
  rw [if_neg hskip, if_neg hskip]
  apply Observed.bind (asks_pass [.getField field] (Tracker.getField field)).observed
  · rintro _ e t₂ w₂ ⟨rfl, hn⟩
    exact .newFault hopened hmust hn
  rintro _ new t₂ w₂ ⟨rfl, hn⟩
  apply Observed.bind (asks_pass [.getOriginal field] (Tracker.getOriginal field)).observed
  · rintro _ e t₃ w₃ ⟨rfl, ho⟩
    exact .oldFault hopened hmust hn ho
  rintro _ old t₃ w₃ ⟨rfl, ho⟩
  have hfetched : Fetched field o t w s old new t₃ w₃ := .intro hopened hmust hn ho
  apply Observed.bind (s.asks_evaluate old new).observed
  · rintro _ e t₄ w₄ ⟨⟨inside, hi, rfl⟩, hj⟩
    exact .judgeFault hfetched hi hj
  rintro _ verdict t₄ w₄ ⟨⟨inside, hi, rfl⟩, hj⟩
  apply Observed.of_quiet
  · exact (quiet_lift _).bind fun _ => (quiet_lift _).bind fun _ => quiet_ofExcept _
  -- the values are judged as they were given, and told of as they are after the verdict
  show Course field name o t w
    ([.hasChange field, .getField field, .getOriginal field] ++ (s.own ++ inside ++ []))
    ((Outcome.make [("field", field), ("allowed", verdict), ("old", w₄.current old),
      ("new", w₄.current new)], t₄), w₄)
  rw [Outcome.make_judged hname, List.append_nil, ← List.append_assoc]
  cases hv : Coercion.truth verdict with
  | error kind => exact .verdictFault hfetched hi hj hv
  | ok allowed => exact .judged hfetched hi hj hv

/-- The courses that validation can take: what it asks of the tracker, and what comes of it. Of the
outcome of a check only a refusal is told to the tracker, and that once. -/
inductive Validation (field : Value) (name : String) (given : List (String × Value)) (t : τ)
    (w : World) : List Request → (Except Fault Unit × τ) × World → Prop
  | nameTaken {e : Fault}
    (hf : needFreeNames "validate_transition" ["changeset", "field"] given = .error e) :
    Validation field name given t w [] ((.error e, t), w)
  | misused {e : Fault} {w₀ : World} (ho : (Options.make given).run.run w = (.error e, w₀)) :
    Validation field name given t w [] ((.error e, t), w₀)
  | failed {o : Options} {asked : List Request} {e : Fault} {t₁ : τ} {w₀ w₁ : World}
    (ho : (Options.make given).run.run w = (.ok o, w₀))
    (hc : Course field name o t w₀ asked ((.error e, t₁), w₁)) :
    Validation field name given t w asked ((.error e, t₁), w₁)
  | accepted {o : Options} {asked : List Request} {out : Outcome} {t₁ : τ} {w₀ w₁ : World}
    (ho : (Options.make given).run.run w = (.ok o, w₀))
    (hc : Course field name o t w₀ asked ((.ok out, t₁), w₁)) (ha : out.allowed = true) :
    Validation field name given t w asked ((.ok (), t₁), w₁)
  | refused {o : Options} {asked : List Request} {out : Outcome} {r : Except Fault Unit}
    {t₁ t₂ : τ} {w₀ w₁ w₂ : World} (ho : (Options.make given).run.run w = (.ok o, w₀))
    (hc : Course field name o t w₀ asked ((.ok out, t₁), w₁)) (ha : out.allowed = false)
    (he : (Tracker.addError field (.text o.message) [("old", out.old), ("new", out.new)]).Gives t₁
      { w₁ with log := w₁.log.write (rejectionEvent field out) } r t₂ w₂) :
    Validation field name given t w
      (asked ++ [.addError field (.text o.message) [("old", out.old), ("new", out.new)]])
      ((r, t₂), w₂)

theorem validateField_observed {field : Value} {name : String} (hname : field.text? = some name)
    (given : List (String × Value)) (t : τ) (rs : List Request) (w : World) :
    Observed (validateField field given) (validateField field given) t rs w
      (Validation field name given t w) := by
  unfold validateField
  apply Observed.bind (quiet_ofExcept _).observed
  · rintro _ e t' w' ⟨rfl, hf⟩
    obtain ⟨hfree, rfl, rfl⟩ := Check.ofExcept_gives.mp hf
    exact .nameTaken hfree
  rintro _ _ t' w' ⟨rfl, hf⟩
  obtain ⟨_, rfl, rfl⟩ := Check.ofExcept_gives.mp hf
  apply Observed.bind (quiet_lift _).observed
  · rintro _ e t' w₀ ⟨rfl, ho⟩
    obtain ⟨hmake, rfl⟩ := Check.lift_gives.mp ho
    exact .misused hmake
  rintro _ o t' w₀ ⟨rfl, ho⟩
  obtain ⟨hmake, rfl⟩ := Check.lift_gives.mp ho
  unfold validateWith
  apply Observed.bind (checkField_observed hname o t _ w₀)
  · intro asked e t₁ w₁ hc
    exact .failed hmake hc
  intro asked out t₁ w₁ hc
  cases ha : out.allowed with
  | true =>
    apply Observed.of_quiet (quiet_pure ())
    rw [List.append_nil]
    exact .accepted hmake hc ha
  | false =>
    -- the refusal is logged first, which asks nothing and cannot fail
    apply Observed.bind (quiet_lift _).observed
    · rintro _ e t' w' ⟨rfl, hlog⟩
      cases (Check.lift_gives.mp hlog).1
    rintro _ _ t' w' ⟨rfl, hlog⟩
    obtain ⟨hwrite, rfl⟩ := Check.lift_gives.mp hlog
    cases hwrite
    have hpass := asks_pass [.addError field (.text o.message) [("old", out.old), ("new", out.new)]]
      (Tracker.addError field (.text o.message) [("old", out.old), ("new", out.new)] : Check τ Unit)
    obtain ⟨_, ⟨rfl, hadd⟩, hrun⟩ := hpass.observed
    exact ⟨_, .refused hmake hc ha hadd, hrun⟩

/-- Whatever the tracker, a check and a validation ask of it what one of their courses says, in that
order, and come to what that course says. -/
theorem Tracker.protocol {field : Value} {name : String} (hname : field.text? = some name)
    (t : τ) (rs : List Request) (w : World) :
    (∀ o, Observed (checkField field o) (checkField field o) t rs w (Course field name o t w)) ∧
      ∀ given, Observed (validateField field given) (validateField field given) t rs w
        (Validation field name given t w) :=
  ⟨fun o => checkField_observed hname o t rs w, fun given => validateField_observed hname given t rs w⟩

/-- A refusal by a query of the schema is told to the tracker. Where a predicate that asks the tracker
something itself lets the change through, nothing is told. -/
theorem Tracker.protocol_refused :
    let field : Value := .text "state"
    let t : FixedTracker := {
      schema := .owner (.mk 1 "Order" [("can_transit", .rules (.mk [] none))])
      changed := .bool true, field := .text "paid", original := .text "new" }
    let w : World := { cached := some {} }
    let asked : List Request := [.hasChange field, .getField field, .getOriginal field]
    let keys : List (String × Value) := [("old", .text "new"), ("new", .text "paid")]
    let named : List (String × Value) := [("message", .text "no")]
    let called : List (String × Value) := [("using", .hook (.mk 2 "changed" (.hasChange field)))]
    field.text? = some "state" ∧
      Validation field "state" named t w
        (asked ++ [.schema, .addError field (.text "no") keys])
        (((validateField field named : Check FixedTracker Unit).runOn t).run w) ∧
      Validation field "state" called t w (asked ++ [.hasChange field])
        (((validateField field called : Check FixedTracker Unit).runOn t).run w) := by
  intro field t w asked keys named called
  have hname : field.text? = some "state" := rfl
  obtain ⟨_, hprotocol⟩ := Tracker.protocol hname t [] w
  refine ⟨hname, ?_, ?_⟩
  · obtain ⟨seen, hcourse, hrun⟩ := hprotocol named
    have hseen : seen = asked ++ [.schema, .addError field (.text "no") keys] :=
      (congrArg (fun r => r.1.2.requests) hrun).symm
    exact hseen ▸ hcourse
  · obtain ⟨seen, hcourse, hrun⟩ := hprotocol called
    have hseen : seen = asked ++ [.hasChange field] :=
      (congrArg (fun r => r.1.2.requests) hrun).symm
    exact hseen ▸ hcourse

end Lifecycle
