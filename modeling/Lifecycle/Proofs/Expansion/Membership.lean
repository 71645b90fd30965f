import Lifecycle.Proofs.Expansion.Dual
import Lifecycle.World

namespace Lifecycle

theorem Value.asElement_of_isHashable {v : Value} (h : v.isHashable = true) : v.asElement = v := by
  unfold asElement
  split
  · cases h
  · rfl

namespace Domain

variable {d : Domain} {s r u v : Value} {ps : List Pair}

theorem contains_congr (hu : u.isHashable = true) (hv : v.isHashable = true) (h : u.key = v.key) :
    d.contains u = d.contains v := by
  cases d with
  | flat states =>
    simp only [contains, Value.asElement_of_isHashable hu, Value.asElement_of_isHashable hv, hu, hv,
      holds_congr h]
  | dual provider t => simp only [contains, Table.hasKey, holds, hu, hv, h]

theorem holds_keys_iff {t : Table} : holds (Table.keys t) v = true ↔ Table.hasKey t v = true := by
  rw [holds_iff, Table.hasKey_iff]
  simp [Table.keys]

theorem isState_of_alternate (provider : Provider) {t : Table} {a : Value}
    (h : alternate t s = .ok a) :
    (dual provider t).contains s = true ∧ holds (dual provider t).states s = true := by
  obtain ⟨hs, hl⟩ := alternate_eq_ok.mp h
  have hk : Table.hasKey t s = true := by rw [Table.hasKey_eq_isSome, hl, Option.isSome_some]
  refine ⟨?_, holds_keys_iff.mpr hk⟩
  simp [contains, hs, hk]

theorem contains_alternate (provider : Provider) {t : Table} {a : Value}
    (h : alternate t s = .ok a) (ha : a.isHashable = true) :
    (dual provider t).contains a = true := by
  obtain ⟨_, hl⟩ := alternate_eq_ok.mp h
  obtain ⟨e, he, _, rfl⟩ := Table.mem_of_lookup?_eq_some hl
  have hv : holds (Table.values t) e.2 = true := holds_iff.mpr ⟨e.2, List.mem_map_of_mem he, rfl⟩
  simp [contains, ha, hv]

/-- Whatever a provider says of its values, a move is taken between states of the domain only. -/
theorem isState_of_concretePairs (h : d.concretePairs s r = .ok ps) :
    (d.contains s = true ∧ holds d.states s = true) ∧
      d.contains r = true ∧ holds d.states r = true := by
  cases d with
  | flat states =>
    rw [concretePairs] at h
    split at h
    next hc =>
      obtain ⟨hs, hr⟩ := Bool.and_eq_true_iff.mp hc
      exact ⟨⟨hs, (Bool.and_eq_true_iff.mp hs).2⟩, hr, (Bool.and_eq_true_iff.mp hr).2⟩
    next => cases h
  | dual provider t =>
    obtain ⟨a, b, ha, hb, _⟩ := alternates_of_concretePairs h
    exact ⟨isState_of_alternate provider ha, isState_of_alternate provider hb⟩

theorem concretePairs_flat {states : List Value} (h : (flat states).concretePairs s r = .ok ps) :
    ps = [(s, r)] := by
  rw [concretePairs] at h
  split at h
  · exact (Except.ok.inj h).symm
  · cases h

theorem contains_of_mem_pairs (h : d.concretePairs s r = .ok ps) {p : Pair} (hp : p ∈ ps)
    (hh : (Pair.value p).isHashable = true) : d.contains p.1 = true ∧ d.contains p.2 = true := by
  obtain ⟨⟨hs, _⟩, hr, _⟩ := isState_of_concretePairs h
  cases d with
  | flat states =>
    rw [concretePairs_flat h] at hp
    rw [List.mem_singleton.mp hp]
    exact ⟨hs, hr⟩
  | dual provider t =>
    obtain ⟨a, b, ha, hb, rfl⟩ := alternates_of_concretePairs h
    rw [Pair.isHashable_value, Bool.and_eq_true] at hh
    simp only [List.mem_cons, List.not_mem_nil, or_false] at hp
    rcases hp with rfl | rfl | rfl | rfl
    · exact ⟨hs, hr⟩
    · exact ⟨contains_alternate provider ha hh.1, hr⟩
    · exact ⟨hs, contains_alternate provider hb hh.2⟩
    · exact ⟨contains_alternate provider ha hh.1, contains_alternate provider hb hh.2⟩

theorem domain_of_expand {rules : Value} {e : Expansion} (h : d.expand rules = .ok e) :
    e.domain = d := by
  simp only [expand, bind_eq_ok, pure_eq_ok] at h
  obtain ⟨_, _, _, _, _, _, rfl⟩ := h
  rfl

theorem contains_of_holds {rules : Value} {e : Expansion} (he : d.expand rules = .ok e)
    (hu : u.isHashable = true) (hv : v.isHashable = true)
    (h : holds e.pairs (Pair.value (u, v)) = true) :
    d.contains u = true ∧ d.contains v = true := by
  obtain ⟨_, ps, hps, hall, hpairs⟩ := met_of_expand he
  rw [hpairs, holds_distinct, holds_iff] at h
  obtain ⟨_, hx, hk⟩ := h
  obtain ⟨m, hm, rfl⟩ := List.mem_map.mp hx
  obtain ⟨hku, hkv⟩ := Pair.key_value_eq_iff.mp hk
  have hh := hall m hm
  obtain ⟨hmu, hmv⟩ := Bool.and_eq_true_iff.mp (Pair.isHashable_value.symm.trans hh)
  obtain ⟨x, _, here, hmeet, hin⟩ := ((mem_of_gather_eq_ok hps).2 m).mp hm
  cases x with
  | malformed x => cases hmeet
  | move s r =>
    have hc := contains_of_mem_pairs hmeet hin hh
    rwa [contains_congr hmu hu hku, contains_congr hmv hv hkv] at hc

end Domain

namespace Act

theorem of_expand {on rules : Value} {e : Expansion} {w w' : World}
    (h : (expand on rules).run.run w = (.ok e, w')) :
    ∃ w₁ now, (declare on).run.run w = (.ok e.domain, w₁) ∧ e.domain.expand now = .ok e := by
  obtain ⟨d, w₁, hd, h⟩ := bind_runs_ok.mp h
  obtain ⟨now, _, _, h⟩ := bind_runs_ok.mp h
  obtain ⟨_, _, _, h⟩ := bind_runs_ok.mp h
  obtain ⟨_, _, hx, h⟩ := bind_runs_ok.mp h
  obtain ⟨_, _, _, h⟩ := bind_runs_ok.mp h
  obtain ⟨rfl, _⟩ := pure_runs_ok.mp h
  obtain ⟨he, _⟩ := ofExcept_runs_ok.mp hx
  rw [Domain.domain_of_expand he]
  exact ⟨w₁, now, hd, he⟩

theorem of_compile {on rules : Value} {m : Matcher} {w w' : World}
    (h : (compile on rules).run.run w = (.ok m, w')) :
    ∃ e w₁ now, (declare on).run.run w = (.ok e.domain, w₁) ∧ e.domain.expand now = .ok e ∧
      m = Matcher.ofExpansion e := by
  obtain ⟨e, _, he, h⟩ := bind_runs_ok.mp h
  obtain ⟨rfl, _⟩ := pure_runs_ok.mp h
  obtain ⟨w₁, now, hd, he⟩ := of_expand he
  exact ⟨e, w₁, now, hd, he, rfl⟩

end Act

/-- Over whatever domain a matcher is compiled, it allows moves between that domain's members only:
the absent value, what can change in place and any other value that is not declared are refused. -/
theorem Matcher.contains_of_allowed {on rules : Value} {m : Matcher} {w w' : World}
    (h : (Act.compile on rules).run.run w = (.ok m, w')) :
    ∃ d w₁, (Act.declare on).run.run w = (.ok d, w₁) ∧ m.domain = some d ∧
      ∀ u v, m.allowed u v = true →
        (u.isHashable = true ∧ d.contains u = true) ∧ v.isHashable = true ∧ d.contains v = true := by
  obtain ⟨e, w₁, now, hd, he, rfl⟩ := Act.of_compile h
  refine ⟨e.domain, w₁, hd, rfl, ?_⟩
  intro u v hall
  rw [allowed, Bool.and_eq_true, Pair.isHashable_value, Bool.and_eq_true] at hall
  obtain ⟨⟨hu, hv⟩, hp⟩ := hall
  obtain ⟨hcu, hcv⟩ := Domain.contains_of_holds he hu hv hp
  exact ⟨⟨hu, hcu⟩, hv, hcv⟩

/-- Over an enumeration the values of members may move as the members do, and nothing else may. -/
theorem Matcher.contains_of_allowed_paid :
    let c : Enumeration := .mk "OrderState" .plain [("CREATED", .int 0), ("PAID", .int 1)] []
    let rules : Value := .dict 0 [(.text "*", .member c "PAID" (.int 1))]
    ∃ m w d, (Act.compile (.enumeration c) rules).run.run {} = (.ok m, w) ∧ m.domain = some d ∧
      m.allowed (.int 0) (.int 1) = true ∧ d.contains (.int 0) = true ∧
      m.allowed .none (.int 1) = false := by
  intro c rules
  obtain ⟨m, w, h⟩ : ∃ m w, (Act.compile (.enumeration c) rules).run.run {} = (.ok m, w) :=
    ⟨_, _, rfl⟩
  obtain ⟨d, _, hd, hm, hall⟩ := contains_of_allowed h
  have hpaid : m.allowed (.int 0) (.int 1) = true := by
    cases h
    simp only [allowed, ofExpansion, pairs, holds_distinct]
    decide
  refine ⟨m, w, d, h, hm, hpaid, (hall _ _ hpaid).1.2, ?_⟩
  cases hn : m.allowed .none (.int 1) with
  | false => rfl
  | true =>
    have hc := (hall _ _ hn).1.2
    cases hd
    exact absurd hc (by decide)

end Lifecycle
