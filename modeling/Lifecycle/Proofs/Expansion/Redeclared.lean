import Lifecycle.Proofs.Expansion.Cover
import Lifecycle.Proofs.Expansion.Membership
import Lifecycle.Proofs.Value.Member

namespace Lifecycle

/-- The states of a declaration that is a plain collection of them. -/
def Value.flatStates? (on : Value) : Option (List Value) :=
  match on with
  | .domain .. | .enumeration _ | .provider .. | .dict .. | .type _ | .owner _ => Option.none
  | _ => if on.isTextual then Option.none else on.elements?

/-- Another declaration has the states of a plain collection, or the entries of a mapping, in another
order. -/
inductive ReorderedDeclaration : Value → Value → Prop
  | states {on on' : Value} {xs xs' : List MadeValue} (h : on.flatStates? = some xs.unattach)
      (h' : on'.flatStates? = some xs'.unattach) (hp : xs.Perm xs') : ReorderedDeclaration on on'
  | entries {items items' : KeyedTable} (id id' : Nat) (hp : items.1.Perm items'.1) :
      ReorderedDeclaration (.dict id items.1) (.dict id' items'.1)

theorem ReorderedDeclaration.symm {on on' : Value} (h : ReorderedDeclaration on on') :
    ReorderedDeclaration on' on := by
  cases h with
  | states h h' hp => exact .states h' h hp.symm
  | entries id id' hp => exact .entries id' id hp.symm

/-- Of two states the one may stand where the other does. -/
def Twin (s s' : Value) : Prop :=
  s = s' ∨ (s.isHashable = true ∧ s'.isHashable = true ∧ s.key = s'.key)

theorem Twin.key_eq {s s' : Value} (h : Twin s s') : s.key = s'.key := by
  rcases h with rfl | ⟨_, _, h⟩
  · rfl
  · exact h

theorem Twin.isHashable_eq {s s' : Value} (h : Twin s s') : s.isHashable = s'.isHashable := by
  rcases h with rfl | ⟨h, h', _⟩
  · rfl
  · rw [h, h']

namespace Domain

theorem declare_of_flatStates {on : Value} {xs : List Value} (h : on.flatStates? = some xs) :
    declare on = ofStates on xs := by
  unfold Value.flatStates? at h
  unfold declare
  split at h <;> simp_all

section Flat

variable {xs xs' : List Value}

theorem contains_flat_perm (hp : xs.Perm xs') {s s' : Value} (hs : Twin s s') :
    (flat (distinct xs)).contains s = (flat (distinct xs')).contains s' := by
  have hsame : (flat (distinct xs)).contains s' = (flat (distinct xs')).contains s' := by
    simp only [contains, holds_distinct, holds_perm hp]
  rw [← hsame]
  rcases hs with rfl | ⟨hs, hs', hk⟩
  · rfl
  · exact contains_congr hs hs' hk

theorem covers_flat (hh : ∀ s ∈ xs, s.isHashable = true) (hm : ∀ s ∈ xs, s.IsMade)
    (hp : xs.Perm xs') : Covers Twin (flat (distinct xs)) (flat (distinct xs')) where
  refl s := .inl rfl
  states s' hs' := by
    have hmem := hp.mem_iff.mpr (mem_of_mem_distinct hs')
    obtain ⟨s, hs, hk⟩ := exists_mem_distinct hmem
    have hsx := mem_of_mem_distinct hs
    exact ⟨s, hs, .inr ⟨hh s hsx, hh s' hmem, hk⟩, Value.isWildcard_congr (hm s hsx) (hm s' hmem) hk⟩
  moves {s s' t t'} hs ht ps hps := by
    rw [concretePairs, contains_flat_perm hp hs, contains_flat_perm hp ht] at hps
    rw [concretePairs]
    split at hps
    · cases hps
      refine ⟨[(s', t')], if_pos ‹_›, ?_⟩
      intro hall q hq
      rw [List.mem_singleton.mp hq]
      have hst := hall (s, t) (List.mem_singleton_self _)
      rw [Pair.isHashable_value, hs.isHashable_eq, ht.isHashable_eq] at hst
      exact ⟨Pair.isHashable_value.trans hst, (s, t), List.mem_singleton_self _,
        Pair.key_value_eq_iff.mpr ⟨hs.key_eq, ht.key_eq⟩⟩
    · cases hps

end Flat

section Dual

variable {items items' : Table}

theorem concretePairs_perm (hk : Table.IsKeyed items) (hp : items.Perm items') (s t : Value) :
    (dual (.mapping items) items).concretePairs s t =
      (dual (.mapping items') items').concretePairs s t := by
  have htype : ∀ v, (Provider.mapping items).isPrimaryType v =
      (Provider.mapping items').isPrimaryType v := by
    intro v
    have hvalues : holds (Table.values items) v = holds (Table.values items') v :=
      holds_perm (hp.map _) v
    simp only [Provider.isPrimaryType, Provider.isOnlyAlternate, hp.any_eq, hvalues,
      Table.hasKey_perm hp]
  have hprimary : ∀ v, (Provider.mapping items).isPrimary v =
      (Provider.mapping items').isPrimary v := by
    intro v
    simp only [Provider.isPrimary, Table.hasKey_perm hp]
  have halternate : ∀ v, alternate items v = alternate items' v := by
    intro v
    simp only [alternate, Table.lookup, Table.lookup?_perm hk hp]
  simp only [concretePairs_dual_eq, htype, hprimary, halternate]

theorem covers_dual (hk : Table.IsKeyed items) (hp : items.Perm items') :
    Covers Eq (dual (.mapping items) items) (dual (.mapping items') items') where
  refl _ := rfl
  states s hs := ⟨s, (hp.map Prod.fst).mem_iff.mpr hs, rfl, rfl⟩
  moves {s _ t _} hs ht ps hps := by
    subst hs ht
    exact ⟨ps, concretePairs_perm hk hp s t ▸ hps, .refl ps⟩

theorem needDistinctAlternates_append {owned front rest : Table}
    (hh : ∀ e ∈ front, e.2.isHashable = true) (ho : ∀ o ∈ owned, ∀ e ∈ front, o.2.key ≠ e.2.key)
    (ha : front.Pairwise fun e f => e.2.key ≠ f.2.key) :
    needDistinctAlternates owned (front ++ rest) = needDistinctAlternates (owned ++ front) rest := by
  -- on the entries in front, each of which goes over to those that are owned
  induction front generalizing owned with
  | nil => rw [List.append_nil, List.nil_append]
  | cons e front ih =>
    obtain ⟨hapart, ha⟩ := List.pairwise_cons.mp ha
    have hnone : owned.find? (fun o => o.2.key = e.2.key) = none := by
      simpa using fun a b hab => ho (a, b) hab e List.mem_cons_self
    have howned : ∀ o ∈ owned ++ [(e.1, e.2)], ∀ f ∈ front, o.2.key ≠ f.2.key := by
      intro o hmem f hf
      rcases List.mem_append.mp hmem with hmem | hmem
      · exact ho o hmem f (List.mem_cons_of_mem _ hf)
      · rw [List.mem_singleton.mp hmem]
        exact hapart f hf
    have happ : owned ++ [(e.1, e.2)] ++ front = owned ++ e :: front := by simp
    rw [List.cons_append, needDistinctAlternates,
      needHashable_eq_ok.mpr (hh e List.mem_cons_self), ok_bind, hnone, ← happ]
    exact ih (fun f hf => hh f (List.mem_cons_of_mem _ hf)) howned ha

theorem needDistinctAlternates_ok {owned t : Table} (hh : ∀ e ∈ t, e.2.isHashable = true)
    (ho : ∀ o ∈ owned, ∀ e ∈ t, o.2.key ≠ e.2.key) (ha : t.Pairwise fun e f => e.2.key ≠ f.2.key) :
    needDistinctAlternates owned t = .ok () := by
  have hpassed : needDistinctAlternates owned (t ++ []) = .ok () :=
    needDistinctAlternates_append hh ho ha
  rwa [List.append_nil] at hpassed

theorem ofProvider_mapping_eq_ok (hk : Table.IsKeyed items) {d : Domain} :
    ofProvider (.mapping items) = .ok d ↔ d = .dual (.mapping items) items ∧ AreAlternates items := by
  have hself : Table.ofList (Provider.mapping items).alternates = items := Table.ofList_eq_self hk
  constructor
  · intro h
    obtain ⟨hd, ha⟩ := areAlternates_of_ofProvider h
    rw [hself] at hd ha
    exact ⟨hd, ha⟩
  · rintro ⟨rfl, ha⟩
    have hvalues : needAllHashable (Table.values items) = .ok () := by
      refine needAllHashable_eq_ok.mpr fun v hv => ?_
      obtain ⟨e, he, rfl⟩ := List.mem_map.mp hv
      exact (ha.hashable e he).2
    have hkeys : needAllHashable (Table.keys items) = .ok () := by
      refine needAllHashable_eq_ok.mpr fun v hv => ?_
      obtain ⟨e, he, rfl⟩ := List.mem_map.mp hv
      exact (ha.hashable e he).1
    have hdistinct : needDistinctAlternates [] items = .ok () :=
      needDistinctAlternates_ok (fun e he => (ha.hashable e he).2) (by simp) ha.apart
    simp only [ofProvider, hself, hvalues, ok_bind]
    rw [Provider.alternates, hkeys, ok_bind, hdistinct]
    rfl

theorem areAlternates_perm (h : AreAlternates items) (hp : items.Perm items') :
    AreAlternates items' where
  hashable e he := h.hashable e (hp.mem_iff.mpr he)
  keyed := h.keyed.perm hp
  apart := hp.pairwise h.apart fun hne => hne.symm

end Dual

/-- A declaration of a domain and a reordered one give domains that do the same. -/
theorem declare_covers {on on' : Value} (h : ReorderedDeclaration on on') {d : Domain}
    (hd : declare on = .ok d) : ∃ stands d', declare on' = .ok d' ∧ Covers stands d d' := by
  cases h with
  | @states on on' xs xs' h h' hp =>
    have hm : ∀ s ∈ xs.unattach, s.IsMade := fun s hs => (List.mem_unattach.mp hs).1
    have hp : xs.unattach.Perm xs'.unattach := hp.map _
    rw [declare_of_flatStates h] at hd
    rw [declare_of_flatStates h']
    unfold ofStates at hd ⊢
    split at hd
    next hall =>
      cases hd
      have hh : ∀ s ∈ xs.unattach, s.isHashable = true := List.all_eq_true.mp hall
      exact ⟨Twin, _, if_pos (hp.all_eq ▸ hall), covers_flat hh hm hp⟩
    · cases hd
  | @entries items items' id id' hp =>
    obtain ⟨rfl, ha⟩ := (ofProvider_mapping_eq_ok items.2).mp hd
    exact ⟨Eq, _, (ofProvider_mapping_eq_ok items'.2).mpr ⟨rfl, areAlternates_perm ha hp⟩,
      covers_dual items.2 hp⟩

end Domain

end Lifecycle
