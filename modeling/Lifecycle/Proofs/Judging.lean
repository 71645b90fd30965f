import Lifecycle.Proofs.Steady
import Lifecycle.Validation

namespace Lifecycle

theorem Coercion.text_of_text? {v : Value} {s : String} (h : v.text? = some s) :
    Coercion.text v = .ok s := by
  unfold Value.text? at h
  split at h <;> cases h <;> rfl

namespace Outcome

variable {field : Value} {name : String}

theorem checkText_of_text? (hn : field.text? = some name) :
    FieldError.checkText "field" (some field) = Checked.ok name := by
  rw [FieldError.checkText, Coercion.text_of_text? hn]
  rfl

theorem make_skipped (hn : field.text? = some name) :
    make [("field", field), ("allowed", .bool true), ("skipped", .bool true)] =
      .ok ⟨name, true, true, .none, .none⟩ := by
  have hf : FieldError.checkText "field" (field? "field"
      [("field", field), ("allowed", .bool true), ("skipped", .bool true)]) = Checked.ok name :=
    checkText_of_text? hn
  rw [make, hf]
  rfl

theorem make_judged (hn : field.text? = some name) (verdict old new : Value) :
    make [("field", field), ("allowed", verdict), ("old", old), ("new", new)] =
      match Coercion.truth verdict with
      | .ok b => .ok ⟨name, b, false, old, new⟩
      | .error kind => .error (.rejected [Issue.at "allowed" kind]) := by
  have hf : FieldError.checkText "field" (field? "field"
      [("field", field), ("allowed", verdict), ("old", old), ("new", new)]) = Checked.ok name :=
    checkText_of_text? hn
  have ha : checkTruth "allowed" (field? "allowed"
      [("field", field), ("allowed", verdict), ("old", old), ("new", new)]) none =
      Checked.ofExcept [.name "allowed"] (Coercion.truth verdict) := rfl
  rw [make, hf, ha]
  cases Coercion.truth verdict with
  | ok b => rfl
  | error kind => rfl

end Outcome

variable {α β : Type}

theorem Changeset.withErrors_errors (cs : Changeset) : cs.withErrors cs.errors = cs := by
  cases cs
  rfl

namespace Check

/-- Whatever errors a changeset has had, and in all worlds like the given one, an operation comes to
the same result and leaves the changeset alone. -/
def Steady (cs : Changeset) (w : World) (x : Check Changeset α) (r : Except Fault α) : Prop :=
  ∀ es v, v.Like w → ∃ v', (x.runOn (cs.withErrors es)).run v = ((r, cs.withErrors es), v') ∧
    v'.Like w

variable {cs : Changeset} {w : World}

theorem steady_ofExcept (e : Except Fault α) : Steady cs w (ofExcept e) e :=
  fun _ v hv => ⟨v, rfl, hv⟩

theorem steady_lift {x : Act α} {r : Except Fault α} (h : Act.Steady w x r) :
    Steady cs w (liftM x) r := by
  intro es v hv
  obtain ⟨v', hrun, hv'⟩ := h v hv
  refine ⟨v', ?_, hv'⟩
  rw [lift_run, hrun]

theorem Steady.bind {x : Check Changeset α} {f : α → Check Changeset β} {r : Except Fault α}
    {q : α → Except Fault β} (hx : Steady cs w x r)
    (hf : ∀ a, r = .ok a → Steady cs w (f a) (q a)) : Steady cs w (x >>= f) (r >>= q) := by
  intro es v hv
  obtain ⟨v₁, hrun, hv₁⟩ := hx es v hv
  rw [run_bind, hrun]
  cases r with
  | error e => exact ⟨v₁, rfl, hv₁⟩
  | ok a => exact hf a rfl es v₁ hv₁

theorem Steady.run_eq {x : Check Changeset α} {r : Except Fault α} (h : Steady cs w x r) :
    ((x.runOn cs).run w).1.1 = r := by
  obtain ⟨w', hrun, _⟩ := h cs.errors w (.refl w)
  rw [cs.withErrors_errors] at hrun
  rw [hrun]

end Check

namespace Changeset

variable {cs : Changeset} {w : World} {f : Value}

theorem ne_stream_of_dict {id : Nat} {items : Table} (hd : cs.changes = .dict id items) :
    ∀ id xs, cs.changes ≠ .stream id xs := by
  rw [hd]
  exact nofun

theorem steady_draw (hd : ∀ id xs, cs.changes ≠ .stream id xs) :
    Check.Steady cs w (draw f) (.ok ()) := by
  intro es v hv
  refine ⟨v, Check.bind_runs_ok.mpr ⟨_, _, v, rfl, ?_⟩, hv⟩
  split
  · rename_i id xs h
    exact absurd h (hd id xs)
  · rfl

theorem steady_hasChange (hd : ∀ id xs, cs.changes ≠ .stream id xs) :
    Check.Steady cs w (Tracker.hasChange f) (Value.bool <$> cs.hasChange f) := by
  have h : Check.Steady cs w
      (do let held ← Check.ofExcept (cs.hasChange f); draw f; return Value.bool held)
      (do let held ← cs.hasChange f; let _ ← Except.ok (); return Value.bool held) :=
    (Check.steady_ofExcept _).bind fun held _ =>
      (steady_draw hd).bind fun _ _ => Check.steady_ofExcept (.ok (Value.bool held))
  rw [map_eq_pure_bind]
  exact h

theorem steady_changed (hd : ∀ id xs, cs.changes ≠ .stream id xs) :
    Check.Steady cs w (do Check.ofExcept (← Tracker.hasChange f).truthOf) (cs.hasChange f) := by
  have htruth (held : Bool) : (Value.bool held).truthOf = .ok held :=
    Value.truthOf_of_undeclared rfl rfl
  have h := (steady_hasChange (w := w) (f := f) hd).bind fun v _ => Check.steady_ofExcept v.truthOf
  cases hc : cs.hasChange f with
  | error e =>
    rw [hc] at h
    exact h
  | ok held =>
    rw [hc] at h
    rw [← htruth held]
    exact h

theorem steady_getField (hd : ∀ id xs, cs.changes ≠ .stream id xs) :
    Check.Steady cs w (Tracker.getField f) (cs.getField f) := by
  have h : Check.Steady cs w (do draw f; Check.ofExcept (cs.getField f))
      (do let _ ← Except.ok (); cs.getField f) :=
    (steady_draw hd).bind fun _ _ => Check.steady_ofExcept _
  exact h

theorem steady_getOriginal : Check.Steady cs w (Tracker.getOriginal f) (cs.getOriginal f) :=
  fun _ v hv => ⟨v, rfl, hv⟩

/-- What the check of a field comes to where the verdict is a function of the two values. -/
def judged (cs : Changeset) (w : World) (field : Value) (required : Bool)
    (judge : Value → Value → Except Fault Value) : Except Fault Outcome := do
  if !(← cs.hasChange field) && !required then
    Outcome.make [("field", field), ("allowed", .bool true), ("skipped", .bool true)]
  else
    let new ← cs.getField field
    let old ← cs.getOriginal field
    let verdict ← judge old new
    Outcome.make [("field", field), ("allowed", verdict), ("old", w.current old),
      ("new", w.current new)]

theorem of_judged {required : Bool} {judge : Value → Value → Except Fault Value} {out : Outcome}
    (h : cs.judged w f required judge = .ok out) :
    (cs.hasChange f = .ok false ∧ required = false ∧
      Outcome.make [("field", f), ("allowed", .bool true), ("skipped", .bool true)] = .ok out) ∨
    ∃ old new verdict, cs.getOriginal f = .ok old ∧ cs.getField f = .ok new ∧
      judge old new = .ok verdict ∧ Outcome.make [("field", f), ("allowed", verdict),
        ("old", w.current old), ("new", w.current new)] = .ok out := by
  unfold judged at h
  obtain ⟨held, hheld, h⟩ := bind_eq_ok.mp h
  -- an unchanged field is let through unasked, unless the options ask for it
  by_cases hskip : (!held && !required) = true
  · rw [if_pos hskip] at h
    obtain ⟨rfl, hr⟩ : held = false ∧ required = false := by simpa using hskip
    exact .inl ⟨hheld, hr, h⟩
  · rw [if_neg hskip] at h
    simp only [bind_eq_ok] at h
    obtain ⟨new, hnew, old, hold, verdict, hverdict, hmake⟩ := h
    exact .inr ⟨old, new, verdict, hold, hnew, hverdict, hmake⟩

theorem steady_checkField (hd : ∀ id xs, cs.changes ≠ .stream id xs) {o : Options}
    {r : Except Fault Strategy} {judge : Value → Value → Except Fault Value}
    (hr : Act.Steady w (Strategy.resolve o.strategy) r)
    (hj : ∀ s, r = .ok s → ∀ old new, Check.Steady cs w (s.evaluate old new) (judge old new)) :
    Check.Steady cs w (checkField f o) (r >>= fun _ => cs.judged w f o.required judge) := by
  unfold checkField judged
  apply (Check.steady_lift hr).bind
  intro s hs
  rw [← bind_assoc]
  apply (steady_changed hd).bind
  intro held _
  by_cases hskip : (!held && !o.required) = true
  · rw [if_pos hskip, if_pos hskip]
    exact Check.steady_ofExcept _
  rw [if_neg hskip, if_neg hskip]
  apply (steady_getField hd).bind
  intro new _
  apply steady_getOriginal.bind
  intro old _
  apply (hj s hs old new).bind
  intro verdict _
  have hold : Check.Steady cs w (Act.current old) (.ok (w.current old)) :=
    Check.steady_lift (Act.steady_current old)
  have hnew : Check.Steady cs w (Act.current new) (.ok (w.current new)) :=
    Check.steady_lift (Act.steady_current new)
  exact hold.bind fun _ _ => hnew.bind fun _ _ => Check.steady_ofExcept _

/-- A matcher judges the two values, in whatever world. -/
theorem steady_checkField_matcher (hd : ∀ id xs, cs.changes ≠ .stream id xs) {o : Options}
    {m : Matcher} (ho : o.strategy = .matcher m) : Check.Steady cs w (checkField f o)
      (cs.judged w f o.required fun old new => .ok (.bool (m.allowed old new))) := by
  have hres : Act.Steady w (Strategy.resolve o.strategy) (.ok (.matcher (.matcher m))) := by
    rw [ho]
    exact Act.steady_pure _
  apply steady_checkField hd hres
  intro s hs old new
  cases hs
  exact Check.steady_ofExcept (.ok (Value.bool (m.allowed old new)))

end Changeset

end Lifecycle
