import Lifecycle.Proofs.FieldCheck

namespace Lifecycle

namespace Changeset

/-- Calls one after the other, up to the first that fails. -/
def validateAll (calls : List FieldCheck) : Check Changeset Unit := calls.forM FieldCheck.run

variable {calls before after : List FieldCheck} {cs cs' : Changeset} {w w' v v' : World}
  {es : List FieldError}

theorem validateAll_cons_runs_ok {c : FieldCheck} :
    ((validateAll (c :: calls)).runOn cs).run v = ((.ok (), cs'), v') ↔ ∃ cs₁ v₁,
      (c.run.runOn cs).run v = ((.ok (), cs₁), v₁) ∧
        ((validateAll calls).runOn cs₁).run v₁ = ((.ok (), cs'), v') := by
  have hcons : validateAll (c :: calls) = (do c.run; validateAll calls) := rfl
  rw [hcons, Check.bind_runs_ok]
  constructor
  · rintro ⟨_, cs₁, v₁, h⟩
    exact ⟨cs₁, v₁, h⟩
  · rintro ⟨cs₁, v₁, h⟩
    exact ⟨(), cs₁, v₁, h⟩

theorem validateAll_runs (hd : ∀ id xs, cs.changes ≠ .stream id xs)
    (hp : ∀ c ∈ calls, c.IsPlain cs w) (hok : ∀ c ∈ calls, ∃ found, c.alone cs w = .ok found)
    (es : List FieldError) (hv : v.Like w) :
    ∃ v', ((validateAll calls).runOn (cs.withErrors es)).run v =
      ((.ok (), cs.withErrors (es ++ calls.flatMap fun c => c.errors cs w)), v') ∧ v'.Like w := by
  -- a call leaves the changeset of the statement with more errors, in a world like the one before
  induction calls generalizing es v with
  | nil =>
    rw [List.flatMap_nil, List.append_nil]
    exact ⟨v, rfl, hv⟩
  | cons c calls ih =>
    rw [List.forall_mem_cons] at hp hok
    obtain ⟨found, hfound⟩ := hok.1
    obtain ⟨v₁, hrun, hv₁⟩ := c.run_runs hd hp.1 es hv
    rw [hfound] at hrun
    obtain ⟨v₂, hrest, hv₂⟩ := ih hp.2 hok.2 (es ++ c.errors cs w) hv₁
    rw [List.append_assoc] at hrest
    exact ⟨v₂, validateAll_cons_runs_ok.mpr ⟨_, v₁, hrun, hrest⟩, hv₂⟩

theorem alone_of_validateAll (hd : ∀ id xs, cs.changes ≠ .stream id xs)
    (hp : ∀ c ∈ calls, c.IsPlain cs w) (hv : v.Like w)
    (h : ((validateAll calls).runOn (cs.withErrors es)).run v = ((.ok (), cs'), v')) :
    ∀ c ∈ calls, ∃ found, c.alone cs w = .ok found := by
  -- a call that fails by itself fails after the others as well, and the statement with it
  induction calls generalizing es v with
  | nil => simp
  | cons c calls ih =>
    rw [List.forall_mem_cons] at hp ⊢
    obtain ⟨cs₁, v₁, hc, hrest⟩ := validateAll_cons_runs_ok.mp h
    obtain ⟨v₂, hrun, hv₂⟩ := c.run_runs hd hp.1 es hv
    rw [hrun] at hc
    cases halone : c.alone cs w with
    | error e =>
      rw [halone] at hc
      cases hc
    | ok found =>
      rw [halone] at hc
      cases hc
      exact ⟨⟨found, rfl⟩, ih hp.2 hv₂ hrest⟩

/-- What calls make of a changeset: each of them finds what it finds by itself, and what they find is
told in order. -/
structure Accumulated (calls : List FieldCheck) (cs : Changeset) (w : World) (cs' : Changeset)
    (w' : World) : Prop where
  data : cs'.data = cs.data
  changes : cs'.changes = cs.changes
  schema : cs'.schema = cs.schema
  alone : ∀ before c after, calls = before ++ c :: after → ∃ found cs₁ w₁,
    c.alone cs w = .ok found ∧ ((validateAll before).runOn cs).run w = ((.ok (), cs₁), w₁) ∧
      c.alone cs₁ w₁ = .ok found
  errors : cs'.errors = calls.flatMap fun c => c.errors cs w
  values : ∀ c ∈ calls, ∀ message out, c.alone cs w = .ok (message, out) → out.allowed = false →
    ∃ old new, cs.getOriginal c.field = .ok old ∧ cs.getField c.field = .ok new ∧
      out.old = w.current old ∧ out.new = w.current new
  isValid : cs'.isValid = true ↔
    ∀ c ∈ calls, ∃ message out, c.alone cs w = .ok (message, out) ∧ out.allowed = true
  errorsOn : (cs'.errorsOn.run.run w').1 = byField <$> cs'.errors.mapM (FieldError.said w)

theorem accumulated_of_validateAll (hfresh : cs.errors = [])
    (hd : ∀ id xs, cs.changes ≠ .stream id xs) (hp : ∀ c ∈ calls, c.IsPlain cs w)
    (h : ((validateAll calls).runOn cs).run w = ((.ok (), cs'), w')) :
    Accumulated calls cs w cs' w' := by
  have hcs : cs.withErrors [] = cs := by rw [← hfresh, cs.withErrors_errors]
  rw [← hcs] at h
  have hok := alone_of_validateAll hd hp (.refl w) h
  obtain ⟨v, hrun, hv⟩ := validateAll_runs hd hp hok [] (.refl w)
  rw [hrun] at h
  cases h
  refine ⟨rfl, rfl, rfl, ?_, rfl, ?_, ?_, ?_⟩
  · -- a call after others meets the changeset with their errors, which no call reads
    rintro before c after rfl
    simp only [List.forall_mem_append, List.forall_mem_cons] at hp hok
    obtain ⟨v₁, hbefore, hv₁⟩ := validateAll_runs hd hp.1 hok.1 [] (.refl w)
    obtain ⟨found, hfound⟩ := hok.2.1
    obtain ⟨v₂, hfind, _⟩ := FieldCheck.steady_find hd hp.2.1 _ v₁ hv₁
    rw [hcs] at hbefore
    refine ⟨found, _, v₁, hfound, hbefore, ?_⟩
    rw [FieldCheck.alone, hfind]
    exact hfound
  · intro c hc message out hfound ha
    exact FieldCheck.values_of_refused hd (hp c hc) hfound ha
  · show (calls.flatMap fun c => c.errors cs w).isEmpty = true ↔ _
    rw [List.isEmpty_iff, List.flatMap_eq_nil_iff]
    exact forall₂_congr fun c hc => FieldCheck.errors_eq_nil_iff (hok c hc)
  · obtain ⟨v', hmessages, _⟩ := steady_errorsOn _ w _ hv
    rw [hmessages]

/-- Errors accumulate in the order of the calls, and in another order come the same errors. -/
theorem validateAll_accumulates (hfresh : cs.errors = [])
    (hd : ∀ id xs, cs.changes ≠ .stream id xs) (hp : ∀ c ∈ calls, c.IsPlain cs w)
    (h : ((validateAll calls).runOn cs).run w = ((.ok (), cs'), w')) :
    Accumulated calls cs w cs' w' ∧
      ∀ others : List FieldCheck, others.Perm calls → ∃ cs₂ w₂,
        ((validateAll others).runOn cs).run w = ((.ok (), cs₂), w₂) ∧
          cs₂.errors.Perm cs'.errors ∧
          ((∀ f, (others.filter fun c => c.name = f) = calls.filter fun c => c.name = f) →
            ∀ grouped, (cs'.errorsOn.run.run w').1 = .ok grouped →
              ∃ grouped₂, (cs₂.errorsOn.run.run w₂).1 = .ok grouped₂ ∧ grouped₂.Perm grouped) := by
  have hfirst := accumulated_of_validateAll hfresh hd hp h
  refine ⟨hfirst, ?_⟩
  intro others ho
  have hcs : cs.withErrors [] = cs := by rw [← hfresh, cs.withErrors_errors]
  rw [← hcs] at h
  have hok := alone_of_validateAll hd hp (.refl w) h
  have hp₂ : ∀ c ∈ others, c.IsPlain cs w := fun c hc => hp c (ho.mem_iff.mp hc)
  have hok₂ : ∀ c ∈ others, ∃ found, c.alone cs w = .ok found :=
    fun c hc => hok c (ho.mem_iff.mp hc)
  obtain ⟨w₂, hrun, _⟩ := validateAll_runs hd hp₂ hok₂ [] (.refl w)
  rw [hcs] at hrun
  have hsecond := accumulated_of_validateAll hfresh hd hp₂ hrun
  refine ⟨_, w₂, hrun, ?_, ?_⟩
  · rw [hsecond.errors, hfirst.errors]
    exact ho.flatMap_right _
  · intro hsame grouped hgrouped
    rw [hfirst.errorsOn] at hgrouped
    rw [hsecond.errorsOn]
    apply byField_said_perm _ _ hgrouped
    · rw [hsecond.errors, hfirst.errors]
      exact ho.flatMap_right _
    · intro f
      rw [hsecond.errors, hfirst.errors, FieldCheck.filter_errors, FieldCheck.filter_errors, hsame]

/-- Two refusals on one field, by the class's rules and by a matcher, around a field that is left as it
is. With the field between them checked first, the same is said. -/
theorem validateAll_accumulates_twice :
    let k : Owner := .mk 1 "Order" [("can_transit", .rules (.mk [] none))]
    let cs : Changeset := new (.dict 0 [(.text "state", .text "new"), (.text "note", .none)])
      (.dict 0 [(.text "state", .text "paid")]) (.owner k)
    let w : World := { cached := some {} }
    let first : FieldCheck := ⟨.text "state", "state", rfl, [("message", .text "no")]⟩
    let second : FieldCheck := ⟨.text "note", "note", rfl, [("required", .bool false)]⟩
    let third : FieldCheck := ⟨.text "state", "state", rfl,
      [("using", .matcher (.mk [] none)), ("message", .text "never")]⟩
    let keys : List (String × Value) := [("old", .text "new"), ("new", .text "paid")]
    ∃ cs' w' cs₂ w₂, ((validateAll [first, second, third]).runOn cs).run w = ((.ok (), cs'), w') ∧
      Accumulated [first, second, third] cs w cs' w' ∧
      cs'.errors = [.mk "state" "no" keys, .mk "state" "never" keys] ∧
      ((validateAll [second, first, third]).runOn cs).run w = ((.ok (), cs₂), w₂) ∧
      ∀ grouped, (cs'.errorsOn.run.run w').1 = .ok grouped →
        ∃ grouped₂, (cs₂.errorsOn.run.run w₂).1 = .ok grouped₂ ∧ grouped₂.Perm grouped := by
  intro k cs w first second third keys
  have hm : k.attribute? "can_transit" = some (.matcher (.mk [] none)) := rfl
  have hplain : ∀ c ∈ [first, second, third], c.IsPlain cs w := by
    simp only [List.forall_mem_cons]
    refine ⟨?_, ?_, ?_, by simp⟩
    · exact FieldCheck.isPlain_of_route hm rfl (.unnamed rfl rfl)
    · exact FieldCheck.isPlain_of_route hm rfl (.unnamed rfl rfl)
    · exact FieldCheck.isPlain_of_matcher rfl
  have hd : ∀ id xs, cs.changes ≠ .stream id xs := by
    intro id xs h
    cases h
  have hok : ∀ c ∈ [first, second, third], ∃ found, c.alone cs w = .ok found := by
    simp only [List.forall_mem_cons]
    exact ⟨⟨_, rfl⟩, ⟨_, rfl⟩, ⟨_, rfl⟩, by simp⟩
  obtain ⟨w', h, _⟩ := validateAll_runs hd hplain hok [] (.refl w)
  obtain ⟨hfirst, hothers⟩ := validateAll_accumulates rfl hd hplain h
  obtain ⟨cs₂, w₂, hrun, _, hsame⟩ := hothers [second, first, third] (.swap _ _ _)
  refine ⟨_, w', cs₂, w₂, h, hfirst, hfirst.errors, hrun, hsame ?_⟩
  intro f
  by_cases hs : "state" = f
  · have hn : ¬ "note" = f := by
      rw [← hs]
      decide
    simp [first, second, hs, hn]
  · simp [first, second, hs, List.filter_cons]

/-- A predicate that lets every change through, whatever the two values, may still tell of an error
itself. -/
theorem validateAll_not_accumulates :
    let told : Value := .hook (.mk 1 "note" (.addError (.text "other") (.text "no")))
    let call : FieldCheck := ⟨.text "state", "state", rfl, [("using", told)]⟩
    let cs : Changeset := new (.dict 0 [(.text "state", .text "a")])
      (.dict 0 [(.text "state", .text "b")]) .none
    let w : World := { cached := some {} }
    (∀ (t : Changeset) (v : World) (old new : Value),
      (((Strategy.judge told old new : Check Changeset Value).runOn t).run v).1.1 =
        .ok (.bool true)) ∧
      cs.errors = [] ∧ ∃ cs' w' message out,
        ((validateAll [call]).runOn cs).run w = ((.ok (), cs'), w') ∧
          call.alone cs w = .ok (message, out) ∧ out.allowed = true ∧ cs'.isValid = false := by
  intro told call cs w
  refine ⟨fun t v old new => rfl, rfl, ?_⟩
  exact ⟨_, _, _, _, rfl, rfl, rfl, rfl⟩

end Changeset

end Lifecycle
