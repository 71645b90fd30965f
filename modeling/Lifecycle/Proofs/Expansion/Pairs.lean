import Lifecycle.Proofs.Expansion.Forms

namespace Lifecycle.Domain

variable {provider : Provider} {t : Table} {rules : Value}

theorem isHashable_of_mem_pairs (ht : AreAlternates t) {s r : Value} {ps : List Pair}
    (h : (dual provider t).concretePairs s r = .ok ps) {p : Pair} (hp : p ∈ ps) :
    (Pair.value p).isHashable = true := by
  obtain ⟨a, b, ha, hb, rfl⟩ := alternates_of_concretePairs h
  obtain ⟨hs, hsa⟩ := alternate_eq_ok.mp ha
  obtain ⟨hr, hrb⟩ := alternate_eq_ok.mp hb
  have hah := ht.isHashable_of_lookup? hsa
  have hbh := ht.isHashable_of_lookup? hrb
  rw [Pair.isHashable_value, Bool.and_eq_true]
  simp only [List.mem_cons, List.not_mem_nil, or_false] at hp
  rcases hp with rfl | rfl | rfl | rfl
  · exact ⟨hs, hr⟩
  · exact ⟨hah, hr⟩
  · exact ⟨hs, hbh⟩
  · exact ⟨hah, hbh⟩

/-- A rule set over a dual domain means its moves in all their forms: the first entry that is none,
or move that the domain refuses, is its fault, and otherwise it has the pairs of either form of one
state with either form of the other, and no other pairs. -/
theorem expand_dual (hd : ofProvider provider = .ok (.dual provider t))
    (hstar : ∀ s ∈ (dual provider t).states, s.same (.text "*") = false) (hrules : rules.IsRules) :
    match ((dual provider t).demands rules).findSome? fun x =>
        faultOf ((dual provider t).meet x) with
    | some f => (dual provider t).expand rules = .error f
    | none => ∃ e, (dual provider t).expand rules = .ok e ∧
        (∀ x ∈ e.pairs, ∃ u v, x = Pair.value (u, v)) ∧
        (∀ u v, holds e.pairs (Pair.value (u, v)) = true ↔
          ∃ p q, .move p q ∈ (dual provider t).demands rules ∧ HasForm t p u ∧ HasForm t q v) ∧
        e.pairs.Pairwise fun x y => x.same y = false := by
  obtain ⟨heq, ht⟩ := areAlternates_of_ofProvider hd
  rw [← (Domain.dual.inj heq).2] at ht
  have hw : (dual provider t).NoWildcard := fun s h => Value.isWildcard_of_not_same (hstar s h)
  have he := expand_eq hw hrules
  have hg := gather_eq (f := (dual provider t).meet) ((dual provider t).demands rules)
  cases hf : ((dual provider t).demands rules).findSome? fun x =>
      faultOf ((dual provider t).meet x) with
  | some f =>
    rw [hf] at he
    exact he
  | none =>
    rw [hf] at he hg
    generalize List.flatMap _ _ = ps at he hg
    have hh : ∀ p ∈ ps, (Pair.value p).isHashable = true := by
      intro p hp
      obtain ⟨x, _, here, hmeet, hin⟩ := ((mem_of_gather_eq_ok hg).2 p).mp hp
      cases x with
      | malformed x => cases hmeet
      | move s r => exact isHashable_of_mem_pairs ht hmeet hin
    refine ⟨_, he.trans (finish_eq_ok.mpr ⟨hh, rfl⟩), ?_, ?_, ?_⟩
    · intro x hx
      obtain ⟨⟨u, v⟩, _, rfl⟩ := List.mem_map.mp (mem_of_mem_distinct hx)
      exact ⟨u, v, rfl⟩
    · intro u v
      rw [holds_distinct, holds_map_value]
      exact mem_of_gather_meet_dual hg u v
    · refine (pairwise_distinct _).imp ?_
      intro x y hxy
      simpa [Value.same] using hxy

/-- A wildcard over an enumeration: the value of a member moves to the one that is named. -/
theorem expand_dual_members :
    let c : Enumeration := .mk "OrderState" .plain [("CREATED", .int 0), ("PAID", .int 1)] []
    let created : Value := .member c "CREATED" (.int 0)
    let paid : Value := .member c "PAID" (.int 1)
    let d : Domain := .dual (.enumeration c) [(created, .int 0), (paid, .int 1)]
    let rules : Value := .list 0 [.tuple [.text "*", .tuple [paid]]]
    ofProvider (.enumeration c) = .ok d ∧
      (∀ s ∈ d.states, s.same (.text "*") = false) ∧ rules.IsRules ∧
      ∃ e, d.expand rules = .ok e ∧ holds e.pairs (Pair.value (.int 0, paid)) = true ∧
        holds e.pairs (Pair.value (paid, created)) = false := by
  intro c created paid d rules
  have hd : ofProvider (.enumeration c) = .ok d := rfl
  have hstar : ∀ s ∈ d.states, s.same (.text "*") = false := by decide
  have hrules : rules.IsRules := ⟨rfl, rfl⟩
  have hdemands : d.demands rules = [.move created paid, .move paid paid] := rfl
  have hmove : .move created paid ∈ d.demands rules := by
    rw [hdemands]
    exact List.mem_cons_self
  obtain ⟨e, he, _, hpairs, _⟩ := expand_dual hd hstar hrules
  refine ⟨hd, hstar, hrules, e, he, ?_, ?_⟩
  · exact (hpairs _ _).mpr ⟨created, paid, hmove, .inr ⟨.int 0, rfl, rfl⟩, .inl rfl⟩
  · rw [Bool.eq_false_iff, ne_eq, hpairs]
    rintro ⟨p, q, hm, _, hq⟩
    change .move p q ∈ d.demands rules at hm
    have hpaid : q = paid := by
      rw [hdemands] at hm
      simp only [List.mem_cons, Demand.move.injEq, List.not_mem_nil, or_false] at hm
      rcases hm with hm | hm
      · exact hm.2
      · exact hm.2
    subst hpaid
    rcases hq with hk | ⟨a, ha, hk⟩
    · exact absurd hk (by decide)
    · cases ha
      exact absurd hk (by decide)

end Lifecycle.Domain
