import Lifecycle.Enumeration
import Lifecycle.Proofs.Expansion.Dual

namespace Lifecycle

/-- A state of a rule is meant for a primary: as the wildcard, or as what equals it. -/
def Value.IsMeantFor (a p : Value) : Prop := a.isWildcard = true ∨ a.key = p.key

/-- Some entry of a rule set has a candidate that is meant for a move from one primary to another.
-/
def Selects (rules p q : Value) : Prop :=
  ∃ x ∈ entryValues rules, ∃ e, Entry.of? x = some e ∧
    (∃ a ∈ unwrap e.source, a.IsMeantFor p) ∧ ∃ b ∈ unwrap e.target, b.IsMeantFor q

theorem holds_map_value {ps : List Pair} {u v : Value} :
    holds (ps.map Pair.value) (Pair.value (u, v)) = true ↔
      ∃ m ∈ ps, m.1.key = u.key ∧ m.2.key = v.key := by
  rw [holds_iff]
  constructor
  · rintro ⟨_, hx, hk⟩
    obtain ⟨m, hm, rfl⟩ := List.mem_map.mp hx
    exact ⟨m, hm, Pair.key_value_eq_iff.mp hk⟩
  · rintro ⟨m, hm, hk⟩
    exact ⟨_, List.mem_map_of_mem hm, Pair.key_value_eq_iff.mpr hk⟩

namespace Domain

variable {d : Domain} {provider : Provider} {t : Table} {rules p q u v : Value} {e : Expansion}

theorem isMeantFor_of_mem_replace {a s : Value} (hs : s ∈ d.replace a) (h : s.key = p.key) :
    a.IsMeantFor p := by
  unfold replace at hs
  split at hs
  next hw => exact .inl hw
  next =>
    rw [List.mem_singleton.mp hs] at h
    exact .inr h

theorem exists_mem_replace {a : Value} (hp : p ∈ d.states) (h : a.IsMeantFor p) :
    ∃ s ∈ d.replace a, s.key = p.key := by
  unfold replace
  cases hw : a.isWildcard with
  | true => exact ⟨p, hp, rfl⟩
  | false =>
    rcases h with h | h
    · rw [hw] at h
      contradiction
    · exact ⟨a, List.mem_singleton_self _, h⟩

/-- The moves asked of a domain are those that the rules select. -/
theorem selects_iff (hp : p ∈ d.states) (hq : q ∈ d.states) :
    Selects rules p q ↔ ∃ s r, .move s r ∈ d.demands rules ∧ s.key = p.key ∧ r.key = q.key := by
  simp only [mem_demands_move, mem_moves]
  constructor
  · rintro ⟨x, hx, e, he, ⟨a, ha, hap⟩, b, hb, hbq⟩
    obtain ⟨s, hs, hsp⟩ := exists_mem_replace hp hap
    obtain ⟨r, hr, hrq⟩ := exists_mem_replace hq hbq
    exact ⟨s, r, ⟨x, hx, e, he, ⟨a, ha, hs⟩, b, hb, hr⟩, hsp, hrq⟩
  · rintro ⟨s, r, ⟨x, hx, e, he, ⟨a, ha, hs⟩, b, hb, hr⟩, hsp, hrq⟩
    exact ⟨x, hx, e, he, ⟨a, ha, isMeantFor_of_mem_replace hs hsp⟩, b, hb,
      isMeantFor_of_mem_replace hr hrq⟩

theorem exists_mem_states {s r : Value} {ps : List Pair}
    (h : (dual provider t).meet (.move s r) = .ok ps) :
    (∃ p ∈ Table.keys t, p.key = s.key) ∧ ∃ q ∈ Table.keys t, q.key = r.key := by
  obtain ⟨a, b, ha, hb, _⟩ := concretePairs_dual h
  obtain ⟨e, he, hes, _⟩ := Table.mem_of_lookup?_eq_some ha
  obtain ⟨f, hf, hfr, _⟩ := Table.mem_of_lookup?_eq_some hb
  exact ⟨⟨e.1, List.mem_map_of_mem he, hes⟩, f.1, List.mem_map_of_mem hf, hfr⟩

/-- What is allowed over a dual domain are the forms of the moves between primaries that the rules
select. -/
theorem allowed_dual_iff (he : (dual provider t).expand rules = .ok e)
    (hu : u.isHashable = true) (hv : v.isHashable = true) :
    (Matcher.ofExpansion e).allowed u v = true ↔
      ∃ p ∈ Table.keys t, ∃ q ∈ Table.keys t,
        HasForm t p u ∧ HasForm t q v ∧ Selects rules p q := by
  obtain ⟨_, ps, hps, _, hpairs⟩ := met_of_expand he
  have hh : (Pair.value (u, v)).isHashable = true := by rw [Pair.isHashable_value, hu, hv]; rfl
  have hallowed : (Matcher.ofExpansion e).allowed u v = true ↔
      ∃ m ∈ ps, m.1.key = u.key ∧ m.2.key = v.key := by
    simp only [Matcher.allowed, Matcher.ofExpansion, Matcher.pairs, hh, Bool.true_and, hpairs,
      holds_distinct, holds_map_value]
  rw [hallowed, mem_of_gather_meet_dual hps]
  -- a move that was met is between primaries, and comes from a candidate
  constructor
  · rintro ⟨s, r, hx, hs, hr⟩
    obtain ⟨here, hmeet⟩ := (mem_of_gather_eq_ok hps).1 _ hx
    obtain ⟨⟨p, hp, hps⟩, q, hq, hqr⟩ := exists_mem_states hmeet
    refine ⟨p, hp, q, hq, (hasForm_congr hps).mpr hs, (hasForm_congr hqr).mpr hr, ?_⟩
    exact (selects_iff (d := dual provider t) hp hq).mpr ⟨s, r, hx, hps.symm, hqr.symm⟩
  · rintro ⟨p, hp, q, hq, hpu, hqv, hsel⟩
    obtain ⟨s, r, hx, hsp, hrq⟩ := (selects_iff (d := dual provider t) hp hq).mp hsel
    exact ⟨s, r, hx, (hasForm_congr hsp).mpr hpu, (hasForm_congr hrq).mpr hqv⟩

end Domain

theorem selects_congr {rules p q p' q' : Value} (hp : p.key = p'.key) (hq : q.key = q'.key) :
    Selects rules p q ↔ Selects rules p' q' := by
  simp only [Selects, Value.IsMeantFor, hp, hq]

/-- Between primaries that share no form, the forms say nothing that the rules do not. -/
theorem selects_of_isApart {t : Table} {rules p q u v : Value} (hp : IsApart t p) (hq : IsApart t q)
    (hpt : p ∈ Table.keys t) (hqt : q ∈ Table.keys t) (hu : HasForm t p u) (hv : HasForm t q v) :
    (∃ s ∈ Table.keys t, ∃ r ∈ Table.keys t,
      HasForm t s u ∧ HasForm t r v ∧ Selects rules s r) ↔ Selects rules p q := by
  constructor
  · rintro ⟨_, hs, _, hr, hsu, hrv, hsel⟩
    obtain ⟨e, he, rfl⟩ := List.mem_map.mp hs
    obtain ⟨f, hf, rfl⟩ := List.mem_map.mp hr
    exact (selects_congr (hp e he u hu hsu) (hq f hf v hv hrv)).mp hsel
  · intro hsel
    exact ⟨p, hpt, q, hqt, hu, hv, hsel⟩

end Lifecycle
