import Lifecycle.Proofs.Expansion.Demand

namespace Lifecycle.Domain

/-- What a flat domain refuses: what is no entry, and a move with a state outside. -/
def outside? (d : Domain) : Demand → Option Fault
  | .malformed x => some (.notAnEntry x)
  | .move s t => if d.contains s && d.contains t then none else some (.unknownState s t)

section

variable {on : Value} {xs : List Value} {d : Domain}

theorem eq_flat_of_ofStates (h : ofStates on xs = .ok d) :
    d = .flat (distinct xs) ∧ ∀ s ∈ d.states, s.isHashable = true := by
  unfold ofStates at h
  by_cases hx : xs.all Value.isHashable = true
  · rw [if_pos hx] at h
    cases h
    refine ⟨rfl, fun s hs => ?_⟩
    exact List.all_eq_true.mp hx s (mem_of_mem_distinct hs)
  · rw [if_neg hx] at h
    cases h

theorem ofStates_eq_flat (on : Value) (hh : xs.all Value.isHashable = true)
    (hx : xs.Pairwise fun x y => x.key ≠ y.key) : ofStates on xs = .ok (.flat xs) := by
  rw [ofStates, if_pos hh, distinct_eq_self hx]

theorem faultOf_meet_flat (states : List Value) (x : Demand) :
    faultOf ((flat states).meet x) = (flat states).outside? x := by
  cases x with
  | malformed x => rfl
  | move s t =>
    simp only [meet, concretePairs, outside?]
    split <;> rfl

theorem meet_flat_eq_ok {states : List Value} {x : Demand} {ps : List Pair}
    (h : (flat states).meet x = .ok ps) : ∃ s t, x = .move s t ∧ ps = [(s, t)] := by
  cases x with
  | malformed x => cases h
  | move s t =>
    simp only [meet, concretePairs] at h
    split at h
    · cases h
      exact ⟨s, t, rfl, rfl⟩
    · cases h

/-- On a flat domain the demands that are met are the pairs. -/
theorem mem_of_gather_meet_flat {states : List Value} {xs : List Demand} {ps : List Pair}
    (h : gather (flat states).meet xs = .ok ps) (s t : Value) :
    (s, t) ∈ ps ↔ .move s t ∈ xs := by
  obtain ⟨hall, hmem⟩ := mem_of_gather_eq_ok h
  rw [hmem]
  constructor
  · rintro ⟨x, hx, here, hm, hp⟩
    obtain ⟨s', t', rfl, rfl⟩ := meet_flat_eq_ok hm
    cases List.mem_singleton.mp hp
    exact hx
  · intro hx
    obtain ⟨here, hm⟩ := hall _ hx
    obtain ⟨s', t', he, rfl⟩ := meet_flat_eq_ok hm
    cases he
    exact ⟨_, hx, _, hm, List.mem_singleton_self _⟩

theorem isHashable_of_mem_demands {rules s t : Value} (hs : ∀ s ∈ d.states, s.isHashable = true)
    (hhash : ∀ x ∈ entryValues rules, ∀ e, Entry.of? x = some e → e.IsHashable)
    (h : .move s t ∈ d.demands rules) : (Pair.value (s, t)).isHashable = true := by
  obtain ⟨x, hx, e, he, hst⟩ := mem_demands_move.mp h
  obtain ⟨⟨a, ha, hsa⟩, b, hb, htb⟩ := mem_moves.mp hst
  have hsh := isHashable_of_mem_replace hs ((hhash x hx e he).1 a ha) hsa
  have hth := isHashable_of_mem_replace hs ((hhash x hx e he).2 b hb) htb
  rw [Pair.isHashable_value, hsh, hth]
  rfl

/-- A rule set over a flat domain means its moves: the first entry that is none, or move that leaves
the domain, is its fault, and otherwise it has a pair for every move and no other. -/
theorem expand_flat {rules : Value} (hd : ofStates on xs = .ok d)
    (hstar : ∀ s ∈ d.states, s.same (.text "*") = false) (hrules : rules.IsRules)
    (hhash : ∀ x ∈ entryValues rules, ∀ e, Entry.of? x = some e → e.IsHashable) :
    match (d.demands rules).findSome? d.outside? with
    | some f => d.expand rules = .error f
    | none => ∃ e, d.expand rules = .ok e ∧
        (∀ p ∈ e.pairs, ∃ s t, .move s t ∈ d.demands rules ∧ p = Pair.value (s, t)) ∧
        (∀ s t, .move s t ∈ d.demands rules → holds e.pairs (Pair.value (s, t)) = true) ∧
        e.pairs.Pairwise fun p q => p.same q = false := by
  obtain ⟨rfl, hs⟩ := eq_flat_of_ofStates hd
  have hw : (flat (distinct xs)).NoWildcard := fun s h => Value.isWildcard_of_not_same (hstar s h)
  -- each demand is either refused or gives its own pair, so the first refusal decides
  have he := ((flat (distinct xs)).expand_follows hrules).eq hw
  have hg := gather_eq (f := (flat (distinct xs)).meet) ((flat (distinct xs)).demands rules)
  simp only [faultOf_meet_flat] at hg
  cases hf : ((flat (distinct xs)).demands rules).findSome? (flat (distinct xs)).outside? with
  | some f =>
    rw [hf] at hg
    rw [he, hg]
    rfl
  | none =>
    rw [hf] at hg
    have hm := mem_of_gather_meet_flat hg
    generalize List.flatMap _ _ = ps at hg hm
    have hh : ∀ p ∈ ps, (Pair.value p).isHashable = true := by
      rintro ⟨s, t⟩ hp
      exact isHashable_of_mem_demands hs hhash ((hm s t).mp hp)
    rw [hg] at he
    refine ⟨_, he.trans (finish_eq_ok.mpr ⟨hh, rfl⟩), ?_, ?_, ?_⟩
    · intro p hp
      obtain ⟨⟨s, t⟩, hst, rfl⟩ := List.mem_map.mp (mem_of_mem_distinct hp)
      exact ⟨s, t, (hm s t).mp hst, rfl⟩
    · intro s t hst
      rw [holds_distinct, holds_iff]
      exact ⟨_, List.mem_map_of_mem ((hm s t).mpr hst), rfl⟩
    · refine (pairwise_distinct _).imp ?_
      intro p q hpq
      simpa [Value.same] using hpq

/-- The move to a state outside comes before the entry that is none. -/
theorem expand_flat_first_fault :
    let on := Value.list 0 [.text "a", .text "b"]
    let rules := Value.list 0 [.tuple [.text "*", .tuple [.text "b", .text "z"]], .int 7]
    ofStates on [.text "a", .text "b"] = .ok (flat [.text "a", .text "b"]) ∧
      (∀ s ∈ (flat [.text "a", .text "b"]).states, s.same (.text "*") = false) ∧ rules.IsRules ∧
      (∀ x ∈ entryValues rules, ∀ e, Entry.of? x = some e → e.IsHashable) ∧
      (flat [.text "a", .text "b"]).expand rules =
        .error (.unknownState (.text "a") (.text "z")) := by
  intro on rules
  have hd : ofStates on [.text "a", .text "b"] = .ok (flat [.text "a", .text "b"]) := by
    unfold ofStates
    rw [distinct_eq_self (by decide)]
    rfl
  have hstar : ∀ s ∈ (flat [.text "a", .text "b"]).states, s.same (.text "*") = false := by
    decide
  have hrules : rules.IsRules := ⟨rfl, rfl⟩
  have hhash : ∀ x ∈ entryValues rules, ∀ e, Entry.of? x = some e → e.IsHashable := by
    intro x hx e he
    have hx : x = .tuple [.text "*", .tuple [.text "b", .text "z"]] ∨ x = .int 7 := by
      simpa [entryValues, rules, Value.elements?] using hx
    rcases hx with rfl | rfl
    · cases he
      exact ⟨by decide, by decide⟩
    · cases he
  exact ⟨hd, hstar, hrules, hhash, expand_flat hd hstar hrules hhash⟩

end

end Lifecycle.Domain
