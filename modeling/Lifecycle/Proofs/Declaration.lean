import Lifecycle.Proofs.Expansion.Redeclared

namespace Lifecycle

def Value.provider? : Value → Option Provider
  | .enumeration e => some (.enumeration e)
  | .provider _ p => some p
  | .dict _ items => some (.mapping items)
  | _ => Option.none

def Provider.forms (p : Provider) : List Value :=
  Table.keys p.alternates ++ Table.values p.alternates

/-- What a declaration stands for when it is in order: a domain that stands for itself, primaries with
alternates that are told apart, or states without their repetitions. -/
inductive Value.Declares : Value → Domain → Prop
  | domain (id : Nat) (d : Domain) : Declares (.domain id d) d
  | dual {on : Value} {p : Provider} (h : on.provider? = some p)
      (ht : AreAlternates (Table.ofList p.alternates)) :
      Declares on (.dual p (Table.ofList p.alternates))
  | flat {on : Value} {xs : List Value} (h : on.flatStates? = some xs)
      (hx : ∀ x ∈ xs, x.isHashable = true) : Declares on (.flat (distinct xs))

namespace Domain

variable {on v : Value} {p : Provider} {d : Domain} {f : Fault} {owned t : Table}

theorem declare_of_provider? (h : on.provider? = some p) : declare on = ofProvider p := by
  unfold Value.provider? at h
  split at h
  all_goals cases h
  all_goals rfl

theorem needDistinctAlternates_eq_error (ho : ∀ o ∈ owned, o.2.isHashable = true)
    (h : needDistinctAlternates owned t = .error f) :
    (∃ e ∈ t, e.2.needHashable = .error f) ∨
      ∃ first second, [first, second].Sublist (owned ++ t) ∧
        (first.2.isHashable = true ∧ second.2.isHashable = true) ∧ first.2.key = second.2.key ∧
        f = .sharedAlternate second.2 first.1 second.1 := by
  induction t generalizing owned with
  | nil => cases h
  | cons e t ih =>
    rw [needDistinctAlternates] at h
    cases hn : e.2.needHashable with
    | error g =>
      rw [hn] at h
      cases h
      exact .inl ⟨e, List.mem_cons_self, hn⟩
    | ok _ =>
      have he : e.2.isHashable = true := needHashable_eq_ok.mp hn
      rw [hn, ok_bind] at h
      cases hfound : owned.find? fun o => o.2.key = e.2.key with
      | some o =>
        simp only [hfound] at h
        cases h
        -- the one that has it already stands in front of this one
        have hk : o.2.key = e.2.key := by simpa using List.find?_some hfound
        have hmem : o ∈ owned := List.mem_of_find?_eq_some hfound
        have hfront : [o].Sublist owned := List.singleton_sublist.mpr hmem
        have hlater : [e].Sublist (e :: t) := List.singleton_sublist.mpr List.mem_cons_self
        exact .inr ⟨o, e, hfront.append hlater, ⟨ho o hmem, he⟩, hk, rfl⟩
      | none =>
        simp only [hfound] at h
        have happ : owned ++ [(e.1, e.2)] ++ t = owned ++ e :: t := by simp
        have howned : ∀ o ∈ owned ++ [(e.1, e.2)], o.2.isHashable = true := by
          intro o hmem
          rcases List.mem_append.mp hmem with hmem | hmem
          · exact ho o hmem
          · rw [List.mem_singleton.mp hmem]
            exact he
        rcases ih howned h with ⟨m, hm, hmf⟩ | ⟨first, second, hsub, hrest⟩
        · exact .inl ⟨m, List.mem_cons_of_mem _ hm, hmf⟩
        · exact .inr ⟨first, second, happ ▸ hsub, hrest⟩

/-- A provider is refused because a form of it can be no key, or because a later primary has an
alternate that is taken. -/
theorem ofProvider_refused (h : ofProvider p = .error f) :
    (∃ v ∈ p.forms, v.needHashable = .error f) ∨
      ∃ first second, [first, second].Sublist (Table.ofList p.alternates) ∧
        (first.2.isHashable = true ∧ second.2.isHashable = true) ∧ first.2.key = second.2.key ∧
        f = .sharedAlternate second.2 first.1 second.1 := by
  obtain ⟨step, hstep, heq⟩ := ofProvider_eq p
  simp only [heq, bind_eq_error] at h
  rcases h with hvalues | ⟨_, _, hkeys | ⟨_, _, hdistinct | ⟨_, _, hno⟩⟩⟩
  · rcases hstep with rfl | rfl
    · cases hvalues
    · obtain ⟨v, hv, hvf⟩ := exists_of_needAllHashable_eq_error hvalues
      exact .inl ⟨v, List.mem_append_right _ hv, hvf⟩
  · obtain ⟨v, hv, hvf⟩ := exists_of_needAllHashable_eq_error hkeys
    exact .inl ⟨v, List.mem_append_left _ hv, hvf⟩
  · rcases needDistinctAlternates_eq_error (by simp) hdistinct with ⟨e, he, hef⟩ | hshared
    · have hv : e.2 ∈ Table.values p.alternates :=
        Table.mem_values_ofList (List.mem_map_of_mem he)
      exact .inl ⟨e.2, List.mem_append_right _ hv, hef⟩
    · exact .inr hshared
  · cases hno

theorem ofProvider_eq_error (h : ofProvider p = .error f) :
    (∃ v ∈ p.forms, v.needHashable = .error f) ∨
      ∃ first second, [first, second].Sublist (Table.ofList p.alternates) ∧
        first.2.key = second.2.key ∧ f = .sharedAlternate second.2 first.1 second.1 := by
  rcases ofProvider_refused h with hform | ⟨first, second, hsub, _, hk, hf⟩
  · exact .inl hform
  · exact .inr ⟨first, second, hsub, hk, hf⟩

theorem declare_of_none (hp : on.provider? = none) (hs : on.flatStates? = none) :
    (∃ id d, on = .domain id d) ∨ declare on = .error (.notADomain on) ∨
      ∃ f, on.iterationFault? = some f ∧ declare on = .error f := by
  unfold Value.flatStates? at hs
  unfold declare
  split
  · exact .inl ⟨_, _, rfl⟩
  · cases hp
  · cases hp
  · cases hp
  · exact .inr (.inl rfl)
  · exact .inr (.inl rfl)
  · right
    cases ht : on.isTextual with
    | true => exact .inl rfl
    | false =>
      have he : on.elements? = none := by
        split at hs <;> simp_all
      rw [if_neg Bool.false_ne_true, he]
      dsimp only
      split
      next b hb => exact .inr ⟨_, hb, rfl⟩
      next => exact .inl rfl

theorem not_declares_of_notADomain (hp : on.provider? = none)
    (h : declare on = .error (.notADomain on)) : ¬ on.Declares d := by
  intro hd
  cases hd with
  | domain id d => cases h
  | dual hsome =>
    rw [hp] at hsome
    cases hsome
  | flat hs hx =>
    rw [declare_of_flatStates hs, ofStates, if_pos (List.all_eq_true.mpr hx)] at h
    cases h

/-- A declaration gives what it stands for, or it is refused as one of no domain or as one with an
alternate that two primaries share. Else a primary or an alternate of it can be no key, or going
through its elements fails. -/
theorem declare_outcome (on : Value) :
    (∃ d, declare on = .ok d ∧ on.Declares d) ∨
      (declare on = .error (.notADomain on) ∧ on.provider? = none ∧ ∀ d, ¬ on.Declares d) ∨
      (∃ p, on.provider? = some p ∧
        ∃ first second, [first, second].Sublist (Table.ofList p.alternates) ∧
          first.2.key = second.2.key ∧
            declare on = .error (.sharedAlternate second.2 first.1 second.1)) ∨
      (∃ p, on.provider? = some p ∧ ∃ v ∈ p.forms, ∃ type,
        v.mutablePart? = some type ∧ declare on = .error (Fault.unhashable type)) ∨
      ∃ f, on.iterationFault? = some f ∧ declare on = .error f := by
  cases hp : on.provider? with
  | some p =>
    rw [declare_of_provider? hp]
    cases h : ofProvider p with
    | ok d =>
      obtain ⟨rfl, ht⟩ := areAlternates_of_ofProvider h
      exact .inl ⟨_, rfl, .dual hp ht⟩
    | error f =>
      rcases ofProvider_eq_error h with ⟨v, hv, hvf⟩ | ⟨first, second, hsub, hk, rfl⟩
      · obtain ⟨type, htype, rfl⟩ := needHashable_eq_error.mp hvf
        exact .inr (.inr (.inr (.inl ⟨p, rfl, v, hv, type, htype, rfl⟩)))
      · exact .inr (.inr (.inl ⟨p, rfl, first, second, hsub, hk, rfl⟩))
  | none =>
    cases hs : on.flatStates? with
    | some xs =>
      have hdecl := declare_of_flatStates hs
      unfold ofStates at hdecl
      split at hdecl
      next hx => exact .inl ⟨_, hdecl, .flat hs (List.all_eq_true.mp hx)⟩
      next => exact .inr (.inl ⟨hdecl, rfl, fun _ => not_declares_of_notADomain hp hdecl⟩)
    | none =>
      rcases declare_of_none hp hs with ⟨id, d, rfl⟩ | hno | hit
      · exact .inl ⟨d, rfl, .domain id d⟩
      · exact .inr (.inl ⟨hno, rfl, fun _ => not_declares_of_notADomain hp hno⟩)
      · exact .inr (.inr (.inr (.inr hit)))

/-- An alternate that can be no key is told as such a value, not as a declaration of no domain. -/
theorem declare_list_alternate :
    let on : Value := .dict 0 [(.text "a", .list 1 [.int 1])]
    ∃ f, declare on = .error f ∧ f = Fault.unhashable "list" ∧ (∀ x, f ≠ .notADomain x) ∧
      ∀ a p q, f ≠ .sharedAlternate a p q :=
  ⟨_, rfl, rfl, fun _ h => (by cases h), fun _ _ _ h => (by cases h)⟩

end Domain

end Lifecycle
