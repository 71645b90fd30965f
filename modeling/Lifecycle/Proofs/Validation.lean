import Lifecycle.Proofs.Judging

namespace Lifecycle

namespace Checked

variable {α β : Type}

theorem value?_of_result {c : Checked α} {x : α} (h : c.result = .ok x) : c.value? = some x := by
  unfold result at h
  cases hv : c.value? with
  | none =>
    rw [hv] at h
    cases h
  | some y =>
    simp only [hv] at h
    split at h
    · rw [Except.ok.inj h]
    · cases h

theorem value?_map {c : Checked α} {f : α → β} {y : β} :
    (c.map f).value? = some y ↔ ∃ x, c.value? = some x ∧ f x = y := Option.map_eq_some_iff

theorem value?_both {a : Checked α} {b : Checked β} {p : α × β} :
    (a.both b).value? = some p ↔ a.value? = some p.1 ∧ b.value? = some p.2 := by
  unfold both
  cases a.value? <;> cases b.value? <;> simp [Prod.ext_iff]

theorem value?_of_also {c : Checked α} {issues : List Issue} {x : α}
    (h : (c.also issues).value? = some x) : c.value? = some x := by
  unfold also at h
  split at h
  · exact h
  · cases h

theorem value?_ofExcept {path : List IssueStep} {e : Except IssueKind α} {x : α} :
    (ofExcept path e).value? = some x ↔ e = .ok x := by
  cases e <;> simp [ofExcept, ok, failed]

end Checked

/-- The options ask that a field be checked even where it is unchanged. -/
def Options.Require (given : List (String × Value)) : Prop :=
  ∃ v, field? "required" given = some v ∧ Coercion.truth v = .ok true

theorem Options.of_make {given : List (String × Value)} {o : Options} {w w' : World}
    (h : (Options.make given).run.run w = (.ok o, w')) :
    o.strategy = (field? "using" given).getD .none ∧
      (Options.Require given → o.required = true) := by
  simp only [make, Act.bind_runs_ok] at h
  obtain ⟨required, _, hreq, message, _, hmes, h⟩ := h
  obtain ⟨hres, _⟩ := Act.ofExcept_runs_ok.mp h
  have hv := Checked.value?_of_also (Checked.value?_of_result hres)
  obtain ⟨⟨r, m⟩, hrm, rfl⟩ := Checked.value?_map.mp hv
  refine ⟨rfl, ?_⟩
  rintro ⟨v, hg, ht⟩
  have hr := (Checked.value?_both.mp hrm).1
  simp only [option, hg, Act.pure_runs_ok] at hreq
  rw [← hreq.1, Checked.value?_ofExcept, ht] at hr
  exact (Except.ok.inj hr).symm

theorem Outcome.allowed_of_make {b : Bool} {field : Value} {rest : List (String × Value)}
    {o : Outcome} (h : Outcome.make (("field", field) :: ("allowed", .bool b) :: rest) = .ok o) :
    o.allowed = b := by
  obtain ⟨⟨⟨f, a⟩, s⟩, hv, rfl⟩ := Checked.value?_map.mp (Checked.value?_of_result h)
  obtain ⟨hfa, _⟩ := Checked.value?_both.mp hv
  obtain ⟨_, ha⟩ := Checked.value?_both.mp hfa
  exact (Option.some.inj ha).symm

namespace Changeset

variable {cs cs' : Changeset} {f : Value} {w w' : World} {id : Nat} {items : Table}

theorem of_checkField {o : Options} {m : Matcher} {out : Outcome} (hd : cs.changes = .dict id items)
    (ho : o.strategy = .matcher m)
    (h : ((checkField f o : Check Changeset Outcome).runOn cs).run w = ((.ok out, cs'), w')) :
    cs = cs' ∧ ((cs.hasChange f = .ok false ∧ o.required = false) ∨
      ∃ old new, cs.getOriginal f = .ok old ∧ cs.getField f = .ok new ∧
        out.allowed = m.allowed old new) := by
  have hstream := ne_stream_of_dict hd
  obtain ⟨v, hrun, _⟩ := steady_checkField_matcher (f := f) hstream ho cs.errors w (.refl w)
  rw [cs.withErrors_errors, h] at hrun
  obtain ⟨hjudged, rfl, _⟩ := Check.outcome_eq_iff.mp hrun.symm
  refine ⟨rfl, ?_⟩
  rcases of_judged hjudged with ⟨hsame, hfree, _⟩ | ⟨old, new, verdict, hold, hnew, hverdict, hmake⟩
  · exact .inl ⟨hsame, hfree⟩
  · cases hverdict
    exact .inr ⟨old, new, hold, hnew, Outcome.allowed_of_make hmake⟩

theorem of_addError {message : Value} {keys : List (String × Value)}
    (h : ((Tracker.addError f message keys : Check Changeset Unit).runOn cs).run w =
      ((.ok (), cs'), w')) :
    cs'.data = cs.data ∧ cs'.changes = cs.changes ∧ cs'.isValid = false := by
  simp only [Tracker.addError, Check.bind_runs_ok, Check.get_runs_ok, Check.ofExcept_runs_ok] at h
  obtain ⟨_, _, _, ⟨rfl, rfl, rfl⟩, after, _, _, ⟨hadd, rfl, rfl⟩, hset⟩ := h
  cases hset
  simp only [addError, bind_eq_ok, pure_eq_ok] at hadd
  obtain ⟨e, _, rfl⟩ := hadd
  refine ⟨rfl, rfl, ?_⟩
  simp [isValid, withErrors, errors]

/-- A changeset that is still valid after its field was checked is left as it was, and its field
allowed, if that had to be checked. -/
theorem of_validateField {field : String} {given : List (String × Value)} {m : Matcher}
    (hd : cs.changes = .dict id items) (hu : field? "using" given = some (.matcher m))
    (h : ((validateField (.text field) given : Check Changeset Unit).runOn cs).run w =
      ((.ok (), cs'), w')) :
    cs'.data = cs.data ∧ cs'.changes = cs.changes ∧
      (cs'.isValid = true → Options.Require given ∨ cs.hasChange (.text field) ≠ .ok false →
        ∃ old new, cs.getOriginal (.text field) = .ok old ∧ cs.getField (.text field) = .ok new ∧
          m.allowed old new = true) := by
  simp only [validateField, validateWith, Check.bind_runs_ok, Check.ofExcept_runs_ok,
    Check.lift_runs_ok] at h
  obtain ⟨_, _, _, ⟨_, rfl, rfl⟩, o, _, _, ⟨hmake, rfl⟩, out, _, _, hcheck, h⟩ := h
  obtain ⟨hs, hreq⟩ := Options.of_make hmake
  rw [hu] at hs
  obtain ⟨rfl, hor⟩ := of_checkField hd hs hcheck
  -- a refusal leaves an error, so that a changeset which is still valid was not refused
  cases hout : out.allowed with
  | true =>
    simp only [hout, Bool.not_true, Bool.false_eq_true, if_false] at h
    obtain ⟨_, rfl, _⟩ := Check.pure_runs_ok.mp h
    refine ⟨rfl, rfl, fun _ hmust => ?_⟩
    rcases hor with ⟨hsame, hfree⟩ | ⟨old, new, hold, hnew, hall⟩
    · rcases hmust with hmust | hmust
      · rw [hreq hmust] at hfree
        cases hfree
      · exact absurd hsame hmust
    · exact ⟨old, new, hold, hnew, hall.symm.trans hout⟩
  | false =>
    simp only [hout, Bool.not_false, if_true, Check.bind_runs_ok, Check.lift_runs_ok] at h
    obtain ⟨_, _, _, ⟨_, rfl⟩, hadd⟩ := h
    obtain ⟨hdata, hchanges, hinvalid⟩ := of_addError hadd
    refine ⟨hdata, hchanges, fun hvalid => ?_⟩
    rw [hinvalid] at hvalid
    cases hvalid

end Changeset

end Lifecycle
