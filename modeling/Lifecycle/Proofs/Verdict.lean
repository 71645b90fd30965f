import Lifecycle.Proofs.Changeset
import Lifecycle.Proofs.Validation
import Lifecycle.Proofs.Value.Equality

namespace Lifecycle

theorem Options.make_runs (m : Matcher) (required : Bool) (w : World) :
    (Options.make [("using", .matcher m), ("required", .bool required)]).run.run w =
      match Act.settings.run.run w with
      | (.ok s, w₁) => (.ok ⟨required, s.validator.message, .matcher m⟩, w₁)
      | (.error f, w₁) => (.error f, w₁) := by
  have hr : (option [("using", .matcher m), ("required", .bool required)] "required" Coercion.truth
      (return (← Act.settings).validator.required)).run.run w = (.ok (.ok required), w) := rfl
  have hm : field? "message" [("using", .matcher m), ("required", Value.bool required)] = none :=
    rfl
  rw [make, Act.run_bind, hr]
  simp only [option, hm, Act.run_bind]
  rcases Act.settings.run.run w with ⟨f | s, w₁⟩
  · rfl
  · rfl

namespace Changeset

variable {cs : Changeset} {f old : Value} {w : World} {id : Nat} {items : Table} {field : String}

theorem checkField_runs {o : Options} {m : Matcher} (hd : cs.changes = .dict id items)
    (ho : o.strategy = .matcher m) (hold : cs.getOriginal (.text field) = .ok old) :
    ∃ out w', ((checkField (.text field) o : Check Changeset Outcome).runOn cs).run w =
        ((.ok out, cs), w') ∧
      out.allowed = ((!Table.hasKey items (.text field) && !o.required) ||
        m.allowed old ((Table.lookup? items (.text field)).getD old)) := by
  have hstream := ne_stream_of_dict hd
  obtain ⟨w', hrun, _⟩ :=
    steady_checkField_matcher (f := .text field) hstream ho cs.errors w (.refl w)
  rw [cs.withErrors_errors] at hrun
  rw [hrun]
  have hname : (Value.text field).text? = some field := rfl
  rw [judged, hasChange_of_dict hd, ok_bind]
  by_cases hskip : (!Table.hasKey items (.text field) && !o.required) = true
  · rw [if_pos hskip, Outcome.make_skipped hname, hskip, Bool.true_or]
    exact ⟨_, w', rfl, rfl⟩
  · rw [if_neg hskip, getField_of_dict hd hold, ok_bind, hold, ok_bind, ok_bind,
      Outcome.make_judged hname, Bool.eq_false_iff.mpr hskip, Bool.false_or]
    exact ⟨_, w', rfl, rfl⟩

theorem addError_runs (cs : Changeset) (field message : String) (old new : Value) (w : World) :
    ∃ e, ((Tracker.addError (.text field) (.text message) [("old", old), ("new", new)] :
      Check Changeset Unit).runOn cs).run w = ((.ok (), cs.withErrors (cs.errors ++ [e])), w) :=
  ⟨.mk field message [("old", old), ("new", new)], rfl⟩

theorem validateWith_runs {o : Options} {m : Matcher} (hd : cs.changes = .dict id items)
    (ho : o.strategy = .matcher m) (hold : cs.getOriginal (.text field) = .ok old) :
    ∃ cs' w', ((validateWith (.text field) o : Check Changeset Unit).runOn cs).run w =
        ((.ok (), cs'), w') ∧
      cs'.isValid = (cs.isValid && (!Table.hasKey items (.text field) && !o.required ||
        m.allowed old ((Table.lookup? items (.text field)).getD old))) := by
  obtain ⟨out, w₁, hcheck, hout⟩ := checkField_runs (w := w) hd ho hold
  rw [← hout]
  unfold validateWith
  cases ha : out.allowed with
  | true =>
    refine ⟨cs, w₁, Check.bind_runs_ok.mpr ⟨out, cs, w₁, hcheck, ?_⟩, by rw [Bool.and_true]⟩
    rw [ha]
    rfl
  | false =>
    let w' : World := { w₁ with log := w₁.log.write (rejectionEvent (.text field) out) }
    obtain ⟨e, he⟩ := addError_runs cs field o.message out.old out.new w'
    refine ⟨cs.withErrors (cs.errors ++ [e]), w',
      Check.bind_runs_ok.mpr ⟨out, cs, w₁, hcheck, ?_⟩, ?_⟩
    · rw [ha]
      exact Check.bind_runs_ok.mpr ⟨(), cs, w', rfl, he⟩
    · simp [isValid, withErrors, errors]

theorem change_single {data new schema : Value} (id : Nat)
    (hold : originalOf data (.text field) = .ok old) :
    change data (.dict id [(.text field, new)]) [] schema = .ok (Changeset.new data
      (.dict 0 (if new.equals old then [] else [(.text field, new)])) schema) := by
  have hp : pending (.dict id [(.text field, new)]) [] = .ok [(.text field, new)] := rfl
  rw [change, hp, ok_bind, keepDiffering, hold]
  rfl

/-- The options come first, and with them the settings, which may be unreadable. -/
theorem validateField_runs (cs : Changeset) (f : Value) (m : Matcher) (required : Bool)
    (w : World) :
    ((validateField f [("using", .matcher m), ("required", .bool required)] :
        Check Changeset Unit).runOn cs).run w =
      match Act.settings.run.run w with
      | (.ok s, w₁) => ((validateWith f ⟨required, s.validator.message, .matcher m⟩ :
          Check Changeset Unit).runOn cs).run w₁
      | (.error e, w₁) => ((.error e, cs), w₁) := by
  have hfree : ((Check.ofExcept (needFreeNames "validate_transition" ["changeset", "field"]
      [("using", .matcher m), ("required", .bool required)]) :
        Check Changeset Unit).runOn cs).run w = ((.ok (), cs), w) := rfl
  rw [validateField, Check.run_bind, hfree]
  show ((liftM (Options.make _) >>= validateWith f : Check Changeset Unit).runOn cs).run w = _
  rw [Check.run_bind, Check.lift_run, Options.make_runs]
  rcases Act.settings.run.run w with ⟨e | s, w₁⟩
  · rfl
  · rfl

/-- Whether the change was kept or dropped, the matcher judges the original against the new one. -/
theorem allowed_kept (m : Matcher) (field : String) {old new : Value}
    (hnew : new.isHashable = true) :
    m.allowed old ((Table.lookup? (if new.equals old then [] else [(.text field, new)])
      (.text field)).getD old) = m.allowed old new := by
  cases hs : new.equals old with
  | false => simp [Table.lookup?]
  | true =>
    have hk : old.key = new.key := (Value.same_iff.mp (Value.same_of_equals hs)).symm
    have hh : (old.isHashable && old.isHashable) = (old.isHashable && new.isHashable) := by
      rw [hnew, Bool.and_self, Bool.and_true]
    exact m.allowed_congr rfl hk hh

theorem hasKey_kept (field : String) (old new : Value) :
    Table.hasKey (if new.equals old then [] else [(.text field, new)]) (.text field) =
      !new.equals old := by
  cases new.equals old <;> simp [Table.hasKey]

/-- The verdict on a change is the matcher's, also where the change is dropped because it is to a
value that equals the original in another form. With settings that cannot be read there is none. -/
theorem isValid_validateField_iff {data old new : Value} {field : String} (id : Nat)
    (schema : Value) (m : Matcher) (required : Bool) (w : World)
    (hold : originalOf data (.text field) = .ok old) (hnew : new.isHashable = true) :
    ∃ cs, change data (.dict id [(.text field, new)]) [] schema = .ok cs ∧
      match Act.settings.run.run w with
      | (.ok _, _) => ∃ cs' w', ((validateField (.text field) [("using", .matcher m),
            ("required", .bool required)] : Check Changeset Unit).runOn cs).run w =
          ((.ok (), cs'), w') ∧
        (cs'.isValid = true ↔
          required = false ∧ new.equals old = true ∨ m.allowed old new = true)
      | (.error f, w') => ((validateField (.text field) [("using", .matcher m),
            ("required", .bool required)] : Check Changeset Unit).runOn cs).run w =
          ((.error f, cs), w') := by
  refine ⟨_, change_single id hold, ?_⟩
  rw [validateField_runs]
  rcases Act.settings.run.run w with ⟨f | s, w₁⟩
  · rfl
  · have hd : (Changeset.new data (.dict 0 (if new.equals old then [] else [(.text field, new)]))
        schema).changes = .dict 0 _ := rfl
    have ho : (⟨required, s.validator.message, .matcher m⟩ : Options).strategy = .matcher m :=
      rfl
    obtain ⟨cs', w', hrun, hvalid⟩ := validateWith_runs (w := w₁) hd ho hold
    refine ⟨cs', w', hrun, ?_⟩
    rw [hvalid, allowed_kept m field hnew, hasKey_kept]
    simp [isValid, Changeset.new, errors, and_comm]

/-- A truth value set to the number it equals: nothing is kept, and still the matcher decides. A field
that is missing moves from nothing, which no rule lets it. -/
theorem isValid_validateField_dropped :
    let data : Value := .dict 0 [(.text "paid", .bool true)]
    let m : Matcher := .mk [Pair.value (.int 1, .int 1)] none
    let w : World := { cached := some {} }
    (originalOf data (.text "paid") = .ok (.bool true) ∧ (Value.int 1).isHashable = true ∧
      ∃ cs cs' w', change data (.dict 0 [(.text "paid", .int 1)]) [] .none = .ok cs ∧
        cs.hasChange (.text "paid") = .ok false ∧
        ((validateField (.text "paid") [("using", .matcher m), ("required", .bool true)] :
          Check Changeset Unit).runOn cs).run w = ((.ok (), cs'), w') ∧ cs'.isValid = true) ∧
    originalOf data (.text "sent") = .ok .none ∧
      ∃ cs cs' w', change data (.dict 0 [(.text "sent", .int 1)]) [] .none = .ok cs ∧
        ((validateField (.text "sent") [("using", .matcher m), ("required", .bool false)] :
          Check Changeset Unit).runOn cs).run w = ((.ok (), cs'), w') ∧ cs'.isValid = false := by
  intro data m w
  have hpaid : originalOf data (.text "paid") = .ok (.bool true) := rfl
  have hsent : originalOf data (.text "sent") = .ok .none := rfl
  have hnew : (Value.int 1).isHashable = true := rfl
  refine ⟨⟨hpaid, hnew, ?_⟩, hsent, ?_⟩
  · obtain ⟨cs, hcs, cs', w', hrun, hvalid⟩ :=
      isValid_validateField_iff 0 .none m true w hpaid hnew
    have hallowed : m.allowed (.bool true) (.int 1) = true := by decide
    refine ⟨cs, cs', w', hcs, ?_, hrun, hvalid.mpr (.inr hallowed)⟩
    cases hcs
    rfl
  · obtain ⟨cs, hcs, cs', w', hrun, hvalid⟩ :=
      isValid_validateField_iff 0 .none m false w hsent hnew
    refine ⟨cs, cs', w', hcs, hrun, ?_⟩
    rw [Bool.eq_false_iff, ne_eq, hvalid]
    rintro (⟨_, hsame⟩ | hallowed)
    · exact absurd hsame (by decide)
    · exact absurd hallowed (by decide)

end Changeset

end Lifecycle
