import Lifecycle.Proofs.Expansion.Apart
import Lifecycle.Proofs.Expansion.Faults
import Lifecycle.Proofs.Expansion.Pairs
import Lifecycle.Proofs.Expansion.Unknown

namespace Lifecycle.Domain

/-- What goes wrong where both sides have the type of a primary and one is no state. A mapping knows its
keys. An enumeration takes every instance of it for a primary, and then an alternate is missing. -/
def strayFault (d : Domain) (u v : Value) : Fault :=
  match d with
  | .dual (.enumeration _) _ => missed (if d.knows u then v else u)
  | _ => .unknownState u v

variable {on rules u v p q : Value} {provider : Provider} {t : Table}

theorem isOnlyAlternate_of_values {items : Table} (hv : v.isHashable = true)
    (ha : holds (Table.values (Table.ofList items)) v = true) (hk : Table.hasKey items v = false) :
    Provider.isOnlyAlternate items v = true := by
  have hitems : holds (Table.values items) v = true := by
    obtain ⟨a, hx, hkey⟩ := holds_iff.mp ha
    exact holds_iff.mpr ⟨a, Table.mem_values_ofList hx, hkey⟩
  rw [Provider.isOnlyAlternate, Value.asElement_of_isHashable hv, hv, hitems, hk]
  rfl

section

variable (hon : (∃ c, on = .enumeration c) ∨ ∃ id items, on = .dict id items)
  (hd : declare on = .ok (.dual provider t))

include hon hd

theorem provider_of_declare :
    t = Table.ofList provider.alternates ∧
      ((∃ c, on = .enumeration c ∧ provider = .enumeration c) ∨
        ∃ items, provider = .mapping items) := by
  rcases hon with ⟨c, rfl⟩ | ⟨id, items, rfl⟩
  · have hp : ofProvider (.enumeration c) = .ok (.dual provider t) := hd
    cases (areAlternates_of_ofProvider hp).1
    exact ⟨rfl, .inl ⟨c, rfl, rfl⟩⟩
  · have hp : ofProvider (.mapping items) = .ok (.dual provider t) := hd
    cases (areAlternates_of_ofProvider hp).1
    exact ⟨rfl, .inr ⟨items, rfl⟩⟩

theorem areAlternates_of_declare : AreAlternates t := by
  obtain ⟨hp, _⟩ := ofProvider_of_declare hon hd
  obtain ⟨heq, ht⟩ := areAlternates_of_ofProvider hp
  rwa [← (Domain.dual.inj heq).2] at ht

theorem isPrimary_of_knows (ht : provider.isPrimaryType v = true)
    (hk : (dual provider t).knows v = true) : provider.isPrimary v = true := by
  obtain ⟨rfl, ⟨c, _, rfl⟩ | ⟨items, rfl⟩⟩ := provider_of_declare hon hd
  · exact ht
  · exact (isPrimary_mapping items v).trans hk

/-- A state has the type of a primary, whatever else it equals. -/
theorem admitted_of_mem_states (hp : p ∈ (dual provider t).states) :
    provider.isPrimaryType p = true ∧ (dual provider t).knows p = true := by
  refine ⟨?_, knows_of_mem_states (areAlternates_of_declare hon hd) hp⟩
  obtain ⟨rfl, ⟨c, _, rfl⟩ | ⟨items, rfl⟩⟩ := provider_of_declare hon hd
  · obtain ⟨_, he, rfl⟩ := List.mem_map.mp (Table.mem_keys_ofList hp)
    obtain ⟨m, _, rfl⟩ := List.mem_map.mp he
    exact Value.isInstance_typeName _
  · obtain ⟨e, he, rfl⟩ := List.mem_map.mp (Table.mem_keys_ofList hp)
    have htype : (items.any fun f => e.1.isInstance f.1.typeName) = true :=
      List.any_eq_true.mpr ⟨e, he, e.1.isInstance_typeName⟩
    have hkey : Table.hasKey items e.1 = true := Table.hasKey_iff.mpr ⟨e, he, rfl⟩
    simp only [Provider.isPrimaryType, Provider.isOnlyAlternate, htype, hkey]
    simp

theorem concretePairs_of_knows
    (hu : provider.isPrimaryType u = true ∧ (dual provider t).knows u = true)
    (hv : provider.isPrimaryType v = true ∧ (dual provider t).knows v = true) :
    ∃ a b, alternate t u = .ok a ∧ alternate t v = .ok b ∧
      (dual provider t).concretePairs u v = .ok [(u, v), (a, v), (u, b), (a, b)] := by
  have hpu := isPrimary_of_knows hon hd hu.1 hu.2
  have hpv := isPrimary_of_knows hon hd hv.1 hv.2
  obtain ⟨a, ha⟩ := exists_alternate hu.2
  obtain ⟨b, hb⟩ := exists_alternate hv.2
  refine ⟨a, b, ha, hb, ?_⟩
  simp [concretePairs_dual_eq, hu.1, hv.1, hpu, hpv, ha, hb]

theorem concretePairs_of_not_knows (hu : provider.isPrimaryType u = true)
    (hv : provider.isPrimaryType v = true)
    (hk : ((dual provider t).knows u && (dual provider t).knows v) = false) :
    (dual provider t).concretePairs u v = .error ((dual provider t).strayFault u v) := by
  obtain ⟨rfl, ⟨c, _, rfl⟩ | ⟨items, rfl⟩⟩ := provider_of_declare hon hd
  -- an instance of the class passes for a primary, so it is its alternate that is missed
  · have hpu : (Provider.enumeration c).isPrimary u = true := hu
    have hpv : (Provider.enumeration c).isPrimary v = true := hv
    cases hku : (dual (.enumeration c) (Table.ofList (Provider.enumeration c).alternates)).knows u with
    | false =>
      simp [concretePairs_dual_eq, strayFault, hu, hv, hpu, hpv, hku, alternate_of_not_knows hku]
    | true =>
      obtain ⟨a, ha⟩ := exists_alternate hku
      rw [hku, Bool.true_and] at hk
      simp [concretePairs_dual_eq, strayFault, hu, hv, hpu, hpv, hku, ha, alternate_of_not_knows hk]
  -- a mapping looks its primaries up, and finds out before it comes to alternates
  · have hp : ((Provider.mapping items).isPrimary u && (Provider.mapping items).isPrimary v) =
        false := by
      rw [isPrimary_mapping, isPrimary_mapping]
      exact hk
    simp [concretePairs_dual_eq, strayFault, hu, hv, hp]

theorem admitted_of_mem_replace {a s : Value} (hs : s ∈ (dual provider t).replace a)
    (ha : a.isWildcard = true ∨
      provider.isPrimaryType a = true ∧ (dual provider t).knows a = true) :
    provider.isPrimaryType s = true ∧ (dual provider t).knows s = true := by
  unfold replace at hs
  split at hs
  next => exact admitted_of_mem_states hon hd hs
  next hno =>
    rw [List.mem_singleton.mp hs]
    exact ha.resolve_left hno

theorem expand_of_knows (hw : (dual provider t).NoWildcard) (hrules : rules.IsRules)
    (hnamed : ∀ x ∈ entryValues rules, ∃ e, Entry.of? x = some e ∧
      ∀ a ∈ unwrap e.source ++ unwrap e.target, a.isWildcard = true ∨
        provider.isPrimaryType a = true ∧ (dual provider t).knows a = true) :
    ∃ e, (dual provider t).expand rules = .ok e := by
  have ht := areAlternates_of_declare hon hd
  have hmet : ∀ x ∈ (dual provider t).demands rules, ∃ ps, (dual provider t).meet x = .ok ps := by
    intro x hx
    obtain ⟨y, hy, hxy⟩ := List.mem_flatMap.mp hx
    obtain ⟨e, he, hall⟩ := hnamed y hy
    rw [demandsOf, he] at hxy
    obtain ⟨⟨s, r⟩, hsr, rfl⟩ := List.mem_map.mp hxy
    obtain ⟨⟨a, ha, hs⟩, b, hb, hr⟩ := mem_moves.mp hsr
    have hsa := admitted_of_mem_replace hon hd hs (hall a (List.mem_append_left _ ha))
    have hrb := admitted_of_mem_replace hon hd hr (hall b (List.mem_append_right _ hb))
    obtain ⟨_, _, _, _, hps⟩ := concretePairs_of_knows hon hd hsa hrb
    exact ⟨_, hps⟩
  -- every demand is met, and the pairs of states can be put into a set
  cases h : (dual provider t).expand rules with
  | ok e => exact ⟨e, rfl⟩
  | error f =>
    rcases of_expand_eq_error hw h with ⟨hno, _⟩ | ⟨x, hx, hxf⟩ | ⟨x, hx, ps, hps, p, hp, hpf⟩
    · exact absurd hrules hno
    · obtain ⟨ps, hps⟩ := hmet x hx
      rw [hps] at hxf
      cases hxf
    · cases x with
      | malformed x => cases hps
      | move s r =>
        rw [needHashable_eq_ok.mpr (isHashable_of_mem_pairs ht hps hp)] at hpf
        cases hpf

/-- The gate of an enumeration or a mapping: a move is refused for the first side that has not the type
of a primary, and between two states it gives its pairs. Else a mapping tells of an unknown state, and
an enumeration fails for want of an alternate. A mapping's alternate that is no primary is refused on
either side, and states never are. So a rule set fails for nothing that the wildcard stands for, and one
of wildcards alone compiles. -/
theorem concretePairs_gate :
    (∀ u v, match provider.isPrimaryType u, provider.isPrimaryType v,
        (dual provider t).knows u && (dual provider t).knows v with
      | false, _, _ => (dual provider t).concretePairs u v = .error (.notPrimary u v .source)
      | true, false, _ => (dual provider t).concretePairs u v = .error (.notPrimary u v .target)
      | true, true, false =>
        (dual provider t).concretePairs u v = .error ((dual provider t).strayFault u v)
      | true, true, true => ∃ a b, alternate t u = .ok a ∧ alternate t v = .ok b ∧
          (dual provider t).concretePairs u v = .ok [(u, v), (a, v), (u, b), (a, b)]) ∧
    (∀ items, provider = .mapping items → ∀ u v, u.isHashable = true →
      holds (Table.values t) u = true → holds (dual provider t).states u = false →
        (∃ side, (dual provider t).concretePairs u v = .error (.notPrimary u v side)) ∧
          ∃ side, (dual provider t).concretePairs v u = .error (.notPrimary v u side)) ∧
    (∀ p ∈ (dual provider t).states,
      (provider.isPrimaryType p = true ∧ (dual provider t).knows p = true) ∧
        ∀ q ∈ (dual provider t).states, ∃ ps, (dual provider t).concretePairs p q = .ok ps) ∧
    ((dual provider t).NoWildcard → ∀ rules : Value, rules.IsRules →
      (∀ x ∈ entryValues rules, ∃ e, Entry.of? x = some e ∧
        ∀ a ∈ unwrap e.source ++ unwrap e.target, a.isWildcard = true ∨
          provider.isPrimaryType a = true ∧ (dual provider t).knows a = true) →
      ∃ e, (dual provider t).expand rules = .ok e) := by
  refine ⟨?_, ?_, ?_, fun hw rules => expand_of_knows hon hd hw⟩
  · intro u v
    cases htu : provider.isPrimaryType u with
    | false => simp [concretePairs_dual_eq, htu]
    | true =>
      cases htv : provider.isPrimaryType v with
      | false => simp [concretePairs_dual_eq, htu, htv]
      | true =>
        cases hk : (dual provider t).knows u && (dual provider t).knows v with
        | false => exact concretePairs_of_not_knows hon hd htu htv hk
        | true =>
          obtain ⟨hku, hkv⟩ := Bool.and_eq_true_iff.mp hk
          exact concretePairs_of_knows hon hd ⟨htu, hku⟩ ⟨htv, hkv⟩
  · rintro items rfl u v hh ha hs
    have htu : (Provider.mapping items).isPrimaryType u = false := by
      have hno : Table.hasKey t u = false := by
        rw [Bool.eq_false_iff, ne_eq, ← holds_keys_iff]
        exact Bool.eq_false_iff.mp hs
      obtain ⟨rfl, _⟩ := provider_of_declare hon hd
      rw [Table.hasKey_ofList] at hno
      have honly : Provider.isOnlyAlternate items u = true := isOnlyAlternate_of_values hh ha hno
      rw [Provider.isPrimaryType, honly, Bool.not_true, Bool.and_false]
    refine ⟨⟨.source, by simp [concretePairs_dual_eq, htu]⟩, ?_⟩
    cases htv : (Provider.mapping items).isPrimaryType v with
    | false => exact ⟨.source, by simp [concretePairs_dual_eq, htv]⟩
    | true => exact ⟨.target, by simp [concretePairs_dual_eq, htu, htv]⟩
  · intro p hp
    have htaken := admitted_of_mem_states hon hd hp
    refine ⟨htaken, fun q hq => ?_⟩
    obtain ⟨_, _, _, _, hps⟩ :=
      concretePairs_of_knows hon hd htaken (admitted_of_mem_states hon hd hq)
    exact ⟨_, hps⟩

end

/-- Keys that are tuples and texts: a tuple with a list in it has the type of a key and is none, and a
text that is an alternate alone has not that type. -/
theorem concretePairs_gate_tuple :
    let items : Table := [(.tuple [.int 1], .int 0), (.text "a", .text "b")]
    let d : Domain := .dual (.mapping items) items
    let v : Value := .tuple [.list 0 []]
    declare (.dict 0 items) = .ok d ∧ d.NoWildcard ∧
      d.concretePairs v (.text "a") = .error (.unknownState v (.text "a")) ∧
      (∃ side, d.concretePairs v (.text "b") = .error (.notPrimary v (.text "b") side)) ∧
      ∃ e, d.expand (.dict 0 [(.text "*", .text "*")]) = .ok e := by
  intro items d v
  have hd : declare (.dict 0 items) = .ok d := rfl
  have hw : d.NoWildcard := by
    unfold NoWildcard
    decide
  obtain ⟨hgate, halternate, _, hcompile⟩ := concretePairs_gate (.inr ⟨0, items, rfl⟩) hd
  refine ⟨hd, hw, hgate v (.text "a"), ?_, ?_⟩
  · exact (halternate items rfl (.text "b") v rfl (by decide) (by decide)).2
  · refine hcompile hw _ ⟨rfl, rfl⟩ fun x hx => ?_
    rw [List.mem_singleton.mp hx]
    exact ⟨_, rfl, by decide⟩

/-- An instance that the enumeration makes on demand is none of its members, nor is a record that gives
itself out for one. Both pass for primaries, and then are told as missing keys. -/
theorem concretePairs_no_member :
    let c : Enumeration := .mk "State" .plain [("PAID", .int 1)] []
    let paid : Value := .member c "PAID" (.int 1)
    let d : Domain := .dual (.enumeration c) [(paid, .int 1)]
    let refunded : Value := .member c "REFUNDED" (.text "refunded")
    let posing : Value := .record 1 (.mk 2 "State" [("__class__", .plain (.enumeration c))]) []
    declare (.enumeration c) = .ok d ∧ d.concretePairs paid paid ≠ .error (.missingKey paid) ∧
      d.concretePairs refunded paid = .error (.missingKey refunded) ∧
      d.concretePairs paid posing = .error (.missingKey posing) :=
  ⟨rfl, fun h => (by cases h), rfl, rfl⟩

end Lifecycle.Domain
