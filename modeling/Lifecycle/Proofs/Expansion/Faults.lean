import Lifecycle.Proofs.Expansion.Flat

namespace Lifecycle

namespace Value

/-- A set that can change in place: it can stand in no set, yet it can be looked for in one. -/
def isChangeableSet : Value → Bool
  | set _ false _ => true
  | _ => false

theorem isHashable_asElement (v : Value) :
    v.asElement.isHashable = (v.isHashable || v.isChangeableSet) := by
  unfold asElement
  split
  next => rfl
  next hset =>
    unfold isChangeableSet
    split
    next id xs => exact absurd rfl (hset id xs)
    next => rw [Bool.or_false]

theorem of_iterationFault? {v : Value} {f : Fault} (h : v.iterationFault? = some f) :
    (∃ b, f = .badValue b) ∨ ∃ m, f = .misuse m := by
  unfold iterationFault? iterationFault?.notOneByOne at h
  split at h
  next =>
    split at h
    all_goals cases h
    · exact .inl ⟨_, rfl⟩
    all_goals exact .inr ⟨_, rfl⟩
  next => cases h

theorem isChangeableSet_of_needHashable {s t : Value} {f : Fault}
    (hs : s.asElement.isHashable = true) (ht : t.asElement.isHashable = true)
    (h : (Pair.value (s, t)).needHashable = .error f) :
    f = Fault.unhashable "set" ∧ (s.isChangeableSet = true ∨ t.isChangeableSet = true) := by
  have hset : ∀ v : Value, v.isChangeableSet = true → v.mutablePart? = some "set" := by
    intro v hv
    unfold isChangeableSet at hv
    split at hv
    · rfl
    · cases hv
  have hnone : ∀ v : Value, v.asElement.isHashable = true → v.isChangeableSet = false →
      v.mutablePart? = Option.none := by
    intro v hv hc
    rw [isHashable_asElement, hc, Bool.or_false] at hv
    exact Option.isNone_iff_eq_none.mp hv
  simp only [needHashable, Pair.value, mutablePart?, mutablePartOf?] at h
  -- what is a state in its frozen form, and can be no part of a key itself, is a set
  cases hcs : s.isChangeableSet with
  | true =>
    rw [hset s hcs] at h
    cases h
    exact ⟨rfl, .inl rfl⟩
  | false =>
    rw [hnone s hs hcs] at h
    cases hct : t.isChangeableSet with
    | true =>
      rw [hset t hct] at h
      cases h
      exact ⟨rfl, .inr rfl⟩
    | false =>
      rw [hnone t ht hct] at h
      cases h

end Value

theorem rawEntries_eq_error {rules : Value} {f : Fault} (h : rawEntries rules = .error f) :
    ¬ rules.IsRules ∧ (f = .notRules rules ∨ rules.iterationFault? = some f) := by
  have hno : ¬ rules.IsRules := by
    intro hr
    rw [Domain.rawEntries_of_isRules hr] at h
    cases h
  refine ⟨hno, ?_⟩
  unfold rawEntries at h
  split at h
  · cases h
  · cases ht : rules.isTextual with
    | true =>
      rw [ht] at h
      cases h
      exact .inl rfl
    | false =>
      rw [ht] at h
      cases he : rules.elements? with
      | some xs =>
        rw [he] at h
        cases h
      | none =>
        rw [he] at h
        cases hi : rules.iterationFault? with
        | none =>
          rw [hi] at h
          cases h
          exact .inl rfl
        | some g =>
          rw [hi] at h
          cases h
          exact .inr rfl

namespace Domain

variable {d : Domain} {on rules : Value} {xs : List Value} {f : Fault}

/-- Where no state is a wildcard, a rule set fails for one of these reasons: it is none, one of its
demands is not met, or one of its pairs can stand in no set. -/
theorem of_expand_eq_error (hw : d.NoWildcard) (h : d.expand rules = .error f) :
    (¬ rules.IsRules ∧ (f = .notRules rules ∨ rules.iterationFault? = some f)) ∨
      (∃ x ∈ d.demands rules, d.meet x = .error f) ∨
      ∃ x ∈ d.demands rules, ∃ ps, d.meet x = .ok ps ∧
        ∃ p ∈ ps, (Pair.value p).needHashable = .error f := by
  by_cases hr : rules.IsRules
  · right
    rw [(d.expand_follows hr).eq hw, bind_eq_error] at h
    rcases h with hg | ⟨ps, hg, hfin⟩
    · exact .inl (exists_of_gather_eq_error hg)
    -- every demand is met, and the pairs are put into a set only then
    · rcases bind_eq_error.mp hfin with hn | ⟨_, _, hno⟩
      · obtain ⟨_, hv, hvf⟩ := exists_of_needAllHashable_eq_error hn
        obtain ⟨p, hp, rfl⟩ := List.mem_map.mp hv
        obtain ⟨x, hx, here, hmeet, hin⟩ := ((mem_of_gather_eq_ok hg).2 p).mp hp
        exact .inr ⟨x, hx, here, hmeet, p, hin, hvf⟩
      · cases hno
  · left
    rcases bind_eq_error.mp h with hraw | ⟨raw, hraw, _⟩
    · exact rawEntries_eq_error hraw
    · exact absurd (isRules_of_rawEntries hraw) hr

theorem contains_flat_iff {states : List Value} {v : Value} :
    (flat states).contains v = true ↔
      (v.isHashable = true ∨ v.isChangeableSet = true) ∧ ∃ s ∈ states, s.same v = true := by
  rw [contains, Value.isHashable_asElement, Bool.and_eq_true, Bool.or_eq_true, holds_iff]
  simp only [Value.same_iff]

theorem of_meet_flat_unhashable {states : List Value} {x : Demand} {ps : List Pair} {p : Pair}
    (hx : (flat states).meet x = .ok ps) (hp : p ∈ ps) (h : (Pair.value p).needHashable = .error f) :
    f = Fault.unhashable "set" ∧ ∃ s t, x = .move s t ∧
      ((flat states).contains s = true ∧ (flat states).contains t = true) ∧
        (s.isChangeableSet = true ∨ t.isChangeableSet = true) := by
  obtain ⟨s, t, rfl, rfl⟩ := meet_flat_eq_ok hx
  rw [List.mem_singleton.mp hp] at h
  have hin : ((flat states).contains s && (flat states).contains t) = true := by
    have hnone : (flat states).outside? (.move s t) = none := by
      rw [← faultOf_meet_flat, hx]
      rfl
    simpa [outside?] using hnone
  obtain ⟨hs, ht⟩ := Bool.and_eq_true_iff.mp hin
  obtain ⟨hf, hset⟩ := Value.isChangeableSet_of_needHashable (Bool.and_eq_true_iff.mp hs).1
    (Bool.and_eq_true_iff.mp ht).1 h
  exact ⟨hf, s, t, rfl, ⟨hs, ht⟩, hset⟩

/-- The members of a flat domain are what equals a state and can stand in a set, and changeable sets
that equal a state. Without a wildcard state a rule set fails over it for what is no rule set or no
entry or lies outside the domain, and else for a changeable set only, which is found out too late. -/
theorem expand_flat_faults (hd : ofStates on xs = .ok d) :
    (∀ v, d.contains v = true ↔
      (v.isHashable = true ∨ v.isChangeableSet = true) ∧ ∃ s ∈ d.states, s.same v = true) ∧
    (d.NoWildcard → ∀ rules, match d.expand rules with
      | .ok _ => rules.IsRules ∧ ∀ x ∈ d.demands rules, d.outside? x = none
      | .error f =>
        (¬ rules.IsRules ∧ (f = .notRules rules ∨ rules.iterationFault? = some f)) ∨
          (∃ x ∈ d.demands rules, d.outside? x = some f) ∨
          (f = Fault.unhashable "set" ∧ ∃ s t, .move s t ∈ d.demands rules ∧
            (d.contains s = true ∧ d.contains t = true) ∧
              (s.isChangeableSet = true ∨ t.isChangeableSet = true))) := by
  obtain ⟨rfl, _⟩ := eq_flat_of_ofStates hd
  refine ⟨fun v => contains_flat_iff, ?_⟩
  intro hw rules
  cases h : (flat (distinct xs)).expand rules with
  | ok e =>
    obtain ⟨hr, ps, hps, _⟩ := met_of_expand h
    refine ⟨hr, fun x hx => ?_⟩
    obtain ⟨here, hmeet⟩ := (mem_of_gather_eq_ok hps).1 x hx
    rw [← faultOf_meet_flat, hmeet]
    rfl
  | error f =>
    rcases of_expand_eq_error hw h with hno | ⟨x, hx, hmeet⟩ | ⟨x, hx, ps, hmeet, p, hp, hpf⟩
    · exact .inl hno
    · refine .inr (.inl ⟨x, hx, ?_⟩)
      rw [← faultOf_meet_flat, hmeet]
      rfl
    · obtain ⟨hf, s, t, rfl, hst⟩ := of_meet_flat_unhashable hmeet hp hpf
      exact .inr (.inr ⟨hf, s, t, hx, hst⟩)

/-- A list is no member, and a rule that names one is refused as a rule with an unknown state is. -/
theorem expand_flat_faults_list :
    let xs : List Value := [.set 0 true [.int 1], .text "a"]
    let d : Domain := flat xs
    let rules : Value := .list 0 [.tuple [.text "a", .tuple [.text "*", .list 0 [.int 1]]]]
    ofStates (.tuple xs) xs = .ok d ∧ d.NoWildcard ∧ d.contains (.list 0 [.int 1]) = false ∧
      d.contains (.set 0 true [.int 1]) = true ∧
      ∃ f, d.expand rules = .error f ∧ ∃ x ∈ d.demands rules, d.outside? x = some f := by
  intro xs d rules
  have hd : ofStates (.tuple xs) xs = .ok d := ofStates_eq_flat _ rfl (by decide)
  have hw : d.NoWildcard := by
    unfold NoWildcard
    decide
  obtain ⟨hmem, hfaults⟩ := expand_flat_faults hd
  have hlist : d.contains (.list 0 [.int 1]) = false := by
    rw [Bool.eq_false_iff, ne_eq, hmem]
    rintro ⟨h | h, _⟩ <;> exact absurd h (by decide)
  have hset : d.contains (.set 0 true [.int 1]) = true :=
    (hmem _).mpr ⟨.inl rfl, _, List.mem_cons_self, by decide⟩
  have hexp : d.expand rules = .error (.unknownState (.text "a") (.list 0 [.int 1])) := rfl
  refine ⟨hd, hw, hlist, hset, _, hexp, ?_⟩
  have h := hfaults hw rules
  rw [hexp] at h
  rcases h with ⟨hno, _⟩ | hout | ⟨hf, _⟩
  · exact absurd ⟨rfl, rfl⟩ hno
  · exact hout
  · cases hf

/-- A changeable set is taken for the unchangeable one that is a state, and then fails as a part of a
pair. -/
theorem expand_changeable_set :
    let xs : List Value := [.set 0 true [.int 1], .text "a"]
    let d : Domain := flat xs
    let v : Value := .set 1 false [.int 1]
    let rules : Value := .list 2 [.tuple [.list 3 [v], .text "a"]]
    ofStates (.tuple xs) xs = .ok d ∧ (∀ s ∈ d.states, s.same (.text "*") = false) ∧
      d.contains v = true ∧ v.isHashable = false ∧ rules.IsRules ∧
      d.expand rules = .error (Fault.unhashable "set") := by
  intro xs d v rules
  exact ⟨ofStates_eq_flat _ rfl (by decide), by decide, by decide, rfl, ⟨rfl, rfl⟩, rfl⟩

end Domain

end Lifecycle
