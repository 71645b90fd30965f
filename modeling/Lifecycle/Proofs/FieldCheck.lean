import Lifecycle.Proofs.Judging
import Lifecycle.Proofs.Messages
import Lifecycle.Proofs.Routes
import Lifecycle.Proofs.Validation

namespace Lifecycle

theorem Options.exists_steady_make (w : World) (given : List (String × Value)) :
    ∃ r, Act.Steady w (Options.make given) r ∧
      ∀ o, r = .ok o → o.strategy = (field? "using" given).getD .none := by
  have hoption {α : Type} (name : String) (coerce : Value → Except IssueKind α)
      (default : Settings → α) : ∃ r, Act.Steady w
        (option given name coerce (return default (← Act.settings))) r := by
    unfold option
    cases field? name given with
    | some v => exact ⟨_, Act.steady_pure _⟩
    | none =>
      have h := Act.steady_settings.bind fun s _ => Act.steady_pure (w := w) (default s)
      exact ⟨_, h.bind fun x _ => Act.steady_pure (Checked.ok x)⟩
  obtain ⟨_, hrequired⟩ := hoption "required" Coercion.truth fun s => s.validator.required
  obtain ⟨_, hmessage⟩ := hoption "message" Coercion.text fun s => s.validator.message
  obtain ⟨r, h⟩ : ∃ r, Act.Steady w (make given) r :=
    ⟨_, hrequired.bind fun _ _ => hmessage.bind fun _ _ => Act.steady_ofExcept _⟩
  refine ⟨r, h, ?_⟩
  intro o ho
  obtain ⟨w', hrun, _⟩ := h w (.refl w)
  rw [ho] at hrun
  exact (Options.of_make hrun).1

/-- A call to validate a field of a changeset. -/
structure FieldCheck where
  field : Value
  name : String
  isName : field.text? = some name
  given : List (String × Value)

namespace FieldCheck

def run (c : FieldCheck) : Check Changeset Unit := validateField c.field c.given

def spec (c : FieldCheck) : Value := (field? "using" c.given).getD .none

/-- What a call finds, with the message for a refusal, before the changeset is told of it. -/
def find (c : FieldCheck) : Check Changeset (String × Outcome) := do
  Check.ofExcept (needFreeNames "validate_transition" ["changeset", "field"] c.given)
  let o ← Options.make c.given
  let out ← checkField c.field o
  return (o.message, out)

/-- The errors that tell of what a call has found. -/
def tell (c : FieldCheck) (found : String × Outcome) : List FieldError :=
  if found.2.allowed then []
  else [.mk c.name found.1 [("old", found.2.old), ("new", found.2.new)]]

def alone (c : FieldCheck) (cs : Changeset) (w : World) : Except Fault (String × Outcome) :=
  ((c.find.runOn cs).run w).1.1

/-- The verdict of a call is a function of the two values, and judging changes nothing. -/
def IsPlain (c : FieldCheck) (cs : Changeset) (w : World) : Prop :=
  ∃ (r : Except Fault Strategy) (judge : Value → Value → Except Fault Value),
    Act.Steady w (Strategy.resolve c.spec) r ∧
      ∀ s, r = .ok s → ∀ old new, Check.Steady cs w (s.evaluate old new) (judge old new)

variable {c : FieldCheck} {cs : Changeset} {w : World}

theorem isPlain_of_matcher {m : Matcher} (h : c.spec = .matcher m) : c.IsPlain cs w := by
  refine ⟨.ok (.matcher (.matcher m)), fun old new => .ok (.bool (m.allowed old new)), ?_, ?_⟩
  · rw [h]
    exact Act.steady_pure _
  · intro s hs old new
    cases hs
    exact fun _ v hv => ⟨v, rfl, hv⟩

theorem isPlain_of_route {k : Owner} {name : String} {m : Matcher}
    (hm : k.attribute? name = some (.matcher m)) (hc : cs.schema = .owner k)
    (hr : Route k name w c.spec) : c.IsPlain cs w := by
  let judge (old new : Value) : Except Fault Value := .ok (.bool (m.allowed old new))
  -- by name, the rules are looked up in the class of the record, which errors do not change
  have hquery {q : Value} (hq : q.text? = some name) (old new : Value) :
      Check.Steady cs w ((Strategy.recordMethod q).evaluate old new) (judge old new) := by
    intro es v hv
    have hc' : (cs.withErrors es).schema = .owner k := hc
    exact ⟨v, Route.recordMethod_runs hm hc' hq old new, hv⟩
  unfold IsPlain
  generalize c.spec = spec at hr
  cases hr with
  | @strategy id q hq =>
    refine ⟨.ok (.recordMethod q), judge, Act.steady_pure _, ?_⟩
    rintro _ ⟨⟩ old new
    exact hquery hq old new
  | named hq =>
    rw [Strategy.resolve_of_text? hq]
    refine ⟨_, judge, Act.steady_pure _, ?_⟩
    rintro _ ⟨⟩ old new
    exact hquery hq old new
  | rules hv =>
    rw [Route.find_of_attribute hm] at hv
    cases hv
    refine ⟨.ok (.matcher (.matcher m)), judge, Act.steady_pure _, ?_⟩
    rintro _ ⟨⟩ old new
    exact fun _ v hv => ⟨v, rfl, hv⟩
  | @predicate h hh =>
    refine ⟨.ok (.predicate (.hook h)), judge, Act.steady_pure _, ?_⟩
    rintro _ ⟨⟩ old new
    exact fun _ v hv => ⟨_, Route.predicate_runs hm hh old new, hv⟩
  | @unnamed settings hs hn =>
    obtain ⟨_, hrun, _⟩ := Act.steady_settings w (.refl w)
    have hread : w.settings? = .ok settings := by
      rw [hrun] at hs
      exact hs
    have hresolve : Act.Steady w (Strategy.resolve .none)
        (do let s ← w.settings?; return .recordMethod (.text s.validator.name)) :=
      Act.steady_settings.bind fun s _ => Act.steady_pure _
    refine ⟨_, judge, hresolve, ?_⟩
    rw [hread]
    rintro _ ⟨⟩ old new
    have hq : (Value.text settings.validator.name).text? = some name := by rw [← hn]; rfl
    exact hquery hq old new

/-- What a call finds by itself is told by its options and its verdict, which are steady. -/
theorem exists_steady_find (hd : ∀ id xs, cs.changes ≠ .stream id xs) (hp : c.IsPlain cs w) :
    ∃ (options : Except Fault Options) (strategy : Except Fault Strategy)
      (judge : Value → Value → Except Fault Value),
      Check.Steady cs w c.find (do
        needFreeNames "validate_transition" ["changeset", "field"] c.given
        let o ← options
        let out ← (do let _ ← strategy; cs.judged w c.field o.required judge)
        return (o.message, out)) := by
  obtain ⟨strategy, judge, hr, hj⟩ := hp
  obtain ⟨options, ho, hspec⟩ := Options.exists_steady_make w c.given
  refine ⟨options, strategy, judge, ?_⟩
  unfold find
  apply (Check.steady_ofExcept _).bind
  intro _ _
  apply (Check.steady_lift ho).bind
  intro o hmake
  have hresolve : Act.Steady w (Strategy.resolve o.strategy) strategy := by
    rw [hspec o hmake]
    exact hr
  apply (Changeset.steady_checkField hd hresolve hj).bind
  intro out _
  exact Check.steady_ofExcept (.ok (o.message, out))

theorem steady_find (hd : ∀ id xs, cs.changes ≠ .stream id xs) (hp : c.IsPlain cs w) :
    Check.Steady cs w c.find (c.alone cs w) := by
  obtain ⟨options, strategy, judge, h⟩ := exists_steady_find hd hp
  rw [alone, h.run_eq]
  exact h

theorem values_of_refused (hd : ∀ id xs, cs.changes ≠ .stream id xs) (hp : c.IsPlain cs w)
    {message : String} {out : Outcome} (h : c.alone cs w = .ok (message, out))
    (ha : out.allowed = false) :
    ∃ old new, cs.getOriginal c.field = .ok old ∧ cs.getField c.field = .ok new ∧
      out.old = w.current old ∧ out.new = w.current new := by
  obtain ⟨options, strategy, judge, hfind⟩ := exists_steady_find hd hp
  rw [alone, hfind.run_eq] at h
  simp only [bind_eq_ok, pure_eq_ok] at h
  obtain ⟨_, _, o, _, out', ⟨_, _, hjudged⟩, hout⟩ := h
  cases hout
  -- a check that is skipped refuses nothing, so a verdict was asked for, with both values at hand
  rcases Changeset.of_judged hjudged with ⟨_, _, hmake⟩ | ⟨old, new, verdict, hold, hnew, _, hmake⟩
  · rw [Outcome.make_skipped c.isName] at hmake
    cases hmake
    cases ha
  · rw [Outcome.make_judged c.isName] at hmake
    cases hv : Coercion.truth verdict with
    | error kind =>
      rw [hv] at hmake
      cases hmake
    | ok b =>
      rw [hv] at hmake
      cases hmake
      exact ⟨old, new, hold, hnew, rfl, rfl⟩

def errors (c : FieldCheck) (cs : Changeset) (w : World) : List FieldError :=
  match c.alone cs w with
  | .ok found => c.tell found
  | .error _ => []

theorem run_eq (c : FieldCheck) : c.run = (do
    let found ← c.find
    if !found.2.allowed then
      Act.log (rejectionEvent c.field found.2)
      Tracker.addError c.field (.text found.1) [("old", found.2.old), ("new", found.2.new)]) := by
  simp [run, find, validateField, validateWith]

theorem field_of_mem_errors {e : FieldError} (he : e ∈ c.errors cs w) : e.field = c.name := by
  unfold errors tell at he
  split at he
  · split at he
    · cases he
    · rw [List.mem_singleton.mp he]
      rfl
  · cases he

theorem filter_errors (calls : List FieldCheck) (f : String) :
    ((calls.flatMap fun c => c.errors cs w).filter fun e => e.field = f) =
      (calls.filter fun c => c.name = f).flatMap fun c => c.errors cs w := by
  rw [List.filter_flatMap]
  induction calls with
  | nil => rfl
  | cons c calls ih =>
    rw [List.flatMap_cons, List.filter_cons, ih]
    by_cases hc : c.name = f
    · have hall : (c.errors cs w).filter (fun e => e.field = f) = c.errors cs w := by
        rw [List.filter_eq_self]
        intro e he
        exact decide_eq_true ((field_of_mem_errors he).trans hc)
      simp [hc, hall]
    · have hnone : (c.errors cs w).filter (fun e => e.field = f) = [] := by
        rw [List.filter_eq_nil_iff]
        intro e he hf
        exact hc ((field_of_mem_errors he).symm.trans (of_decide_eq_true hf))
      simp [hc, hnone]

theorem errors_eq_nil_iff (h : ∃ found, c.alone cs w = .ok found) :
    c.errors cs w = [] ↔
      ∃ message out, c.alone cs w = .ok (message, out) ∧ out.allowed = true := by
  obtain ⟨⟨message, out⟩, hfound⟩ := h
  have herrors : c.errors cs w = c.tell (message, out) := by rw [errors, hfound]
  rw [herrors, hfound, tell]
  constructor
  · intro h
    refine ⟨message, out, rfl, ?_⟩
    cases ha : out.allowed with
    | true => rfl
    | false =>
      simp only [ha] at h
      cases h
  · rintro ⟨_, _, hout, ha⟩
    cases hout
    rw [if_pos ha]

theorem addError_eq (c : FieldCheck) (cs : Changeset) (message : String) (old new : Value) :
    cs.addError c.field (.text message) [("old", old), ("new", new)] =
      .ok (cs.withErrors (cs.errors ++ [.mk c.name message [("old", old), ("new", new)]])) := by
  have hf : FieldError.checkText "field" (field? "field" [("field", c.field),
      ("template", .text message), ("keys", .dict 0 [(.text "old", old), (.text "new", new)])]) =
      Checked.ok c.name := Outcome.checkText_of_text? c.isName
  have hmake : FieldError.make [("field", c.field), ("template", .text message),
      ("keys", .dict 0 [(.text "old", old), (.text "new", new)])] =
      .ok (.mk c.name message [("old", old), ("new", new)]) := by
    rw [FieldError.make, hf]
    rfl
  exact bind_eq_ok.mpr ⟨_, hmake, rfl⟩

/-- A call adds to the errors there are what it adds by itself, or fails as it fails by itself. -/
theorem run_runs (hd : ∀ id xs, cs.changes ≠ .stream id xs) (hp : c.IsPlain cs w)
    (es : List FieldError) {v : World} (hv : v.Like w) :
    ∃ v', (c.run.runOn (cs.withErrors es)).run v =
      (((c.alone cs w).map fun _ => (), cs.withErrors (es ++ c.errors cs w)), v') ∧ v'.Like w := by
  -- what is found is the same whatever errors there are, and only a refusal adds one
  obtain ⟨v₁, hfind, hv₁⟩ := steady_find hd hp es v hv
  rw [run_eq, Check.run_bind, hfind, errors]
  cases hc : c.alone cs w with
  | error e =>
    rw [List.append_nil]
    exact ⟨v₁, rfl, hv₁⟩
  | ok found =>
    cases ha : found.2.allowed with
    | true =>
      simp only [ha, tell, if_true, List.append_nil]
      exact ⟨v₁, rfl, hv₁⟩
    | false =>
      simp only [ha, tell, Bool.false_eq_true, if_false]
      refine ⟨{ v₁ with log := v₁.log.write (rejectionEvent c.field found.2) }, ?_, hv₁⟩
      refine Check.bind_runs_ok.mpr ⟨(), cs.withErrors es, _, rfl, ?_⟩
      refine Check.bind_runs_ok.mpr ⟨cs.withErrors es, cs.withErrors es, _, rfl, ?_⟩
      refine Check.bind_runs_ok.mpr ⟨_, _, _, Check.ofExcept_runs_ok.mpr
        ⟨c.addError_eq (cs.withErrors es) found.1 found.2.old found.2.new, rfl, rfl⟩, rfl⟩

end FieldCheck

end Lifecycle
