import Lifecycle.Proofs.Expansion.Demand
import Lifecycle.Proofs.Table

namespace Lifecycle

/-- Primaries with alternates of which a dual domain can be made. -/
structure AreAlternates (t : Table) : Prop where
  hashable : ∀ e ∈ t, e.1.isHashable = true ∧ e.2.isHashable = true
  keyed : Table.IsKeyed t
  apart : t.Pairwise fun e f => e.2.key ≠ f.2.key

/-- A value is a primary or its alternate. -/
def HasForm (t : Table) (p u : Value) : Prop :=
  u.key = p.key ∨ ∃ a, Table.lookup? t p = some a ∧ u.key = a.key

/-- A primary shares neither form with another primary. -/
def IsApart (t : Table) (p : Value) : Prop :=
  ∀ e ∈ t, ∀ u, HasForm t p u → HasForm t e.1 u → e.1.key = p.key

namespace Domain

theorem needDistinctAlternates_eq_ok {owned t : Table}
    (h : needDistinctAlternates owned t = .ok ()) :
    (∀ e ∈ t, e.2.isHashable = true) ∧ (∀ o ∈ owned, ∀ e ∈ t, o.2.key ≠ e.2.key) ∧
      t.Pairwise fun e f => e.2.key ≠ f.2.key := by
  induction t generalizing owned with
  | nil => exact ⟨by simp, by simp, .nil⟩
  | cons e t ih =>
    rw [needDistinctAlternates, bind_eq_ok] at h
    obtain ⟨_, hh, h⟩ := h
    cases hf : owned.find? fun o => o.2.key = e.2.key with
    | some o => simp [hf] at h
    | none =>
      simp only [hf] at h
      obtain ⟨hall, howned, hpair⟩ := ih h
      have hn : ∀ o ∈ owned, o.2.key ≠ e.2.key := by simpa using hf
      refine ⟨?_, ?_, .cons ?_ hpair⟩
      · intro f hf
        rcases List.mem_cons.mp hf with rfl | hf
        · exact needHashable_eq_ok.mp hh
        · exact hall f hf
      · intro o ho f hf
        rcases List.mem_cons.mp hf with rfl | hf
        · exact hn o ho
        · exact howned o (List.mem_append_left _ ho) f hf
      · intro f hf
        exact howned _ (List.mem_append_right _ (List.mem_singleton_self _)) f hf

theorem ofProvider_eq (p : Provider) :
    ∃ first : Except Fault Unit,
      (first = .ok () ∨ first = needAllHashable (Table.values p.alternates)) ∧
      ofProvider p = first >>= fun _ => do
        needAllHashable (Table.keys p.alternates)
        needDistinctAlternates [] (Table.ofList p.alternates)
        return .dual p (Table.ofList p.alternates) := by
  cases p with
  | enumeration e => exact ⟨.ok (), .inl rfl, rfl⟩
  | mapping items => exact ⟨needAllHashable (Table.values items), .inr rfl, rfl⟩
  | custom name items types valid => exact ⟨.ok (), .inl rfl, rfl⟩

theorem areAlternates_of_ofProvider {p : Provider} {d : Domain} (h : ofProvider p = .ok d) :
    d = .dual p (Table.ofList p.alternates) ∧ AreAlternates (Table.ofList p.alternates) := by
  obtain ⟨first, _, he⟩ := ofProvider_eq p
  rw [he] at h
  simp only [bind_eq_ok, pure_eq_ok] at h
  obtain ⟨_, _, _, hkeys, _, hdistinct, rfl⟩ := h
  obtain ⟨hall, _, hpair⟩ := needDistinctAlternates_eq_ok hdistinct
  refine ⟨rfl, fun e he => ⟨?_, hall e he⟩, Table.isKeyed_ofList _, hpair⟩
  exact needAllHashable_eq_ok.mp hkeys _ (Table.mem_keys_ofList (List.mem_map_of_mem he))

end Domain

section

variable {t : Table} {p q u v : Value}

theorem hasForm_congr (h : p.key = q.key) : HasForm t p u ↔ HasForm t q u := by
  rw [HasForm, HasForm, h, Table.lookup?_congr h]

theorem hasForm_of_mem {a : Value} (ha : Table.lookup? t p = some a) (hu : u ∈ [p, a]) :
    HasForm t p u := by
  rcases List.mem_cons.mp hu with rfl | hu
  · exact .inl rfl
  · rw [List.mem_singleton.mp hu]
    exact .inr ⟨a, ha, rfl⟩

theorem key_eq_of_alternate (ht : AreAlternates t) {a b : Value} (ha : Table.lookup? t p = some a)
    (hb : Table.lookup? t q = some b) (hab : a.key = b.key) : p.key = q.key := by
  obtain ⟨e, he, hep, rfl⟩ := Table.mem_of_lookup?_eq_some ha
  obtain ⟨f, hf, hfq, rfl⟩ := Table.mem_of_lookup?_eq_some hb
  rw [← hep, ← hfq, eq_of_pairwise_ne ht.apart he hf hab]

theorem AreAlternates.isHashable_of_lookup? (ht : AreAlternates t) {a : Value}
    (h : Table.lookup? t p = some a) : a.isHashable = true := by
  obtain ⟨e, he, _, rfl⟩ := Table.mem_of_lookup?_eq_some h
  exact (ht.hashable e he).2

end

namespace Domain

section

variable {provider : Provider} {t : Table} {s r : Value}

theorem alternate_eq_ok {a : Value} :
    alternate t s = .ok a ↔ s.isHashable = true ∧ Table.lookup? t s = some a := by
  unfold alternate Table.lookup
  simp only [bind_eq_ok, pure_eq_ok]
  constructor
  · rintro ⟨_, ⟨_, hh, rfl⟩, h⟩
    refine ⟨needHashable_eq_ok.mp hh, ?_⟩
    cases hl : Table.lookup? t s with
    | none =>
      rw [hl] at h
      exact absurd h throw_ne_ok
    | some b => simpa [hl] using h
  · rintro ⟨hh, hl⟩
    refine ⟨_, ⟨(), needHashable_eq_ok.mpr hh, rfl⟩, ?_⟩
    simp [hl]

/-- What is asked of a move in turn: both types, then both primaries, then their alternates. -/
theorem concretePairs_dual_eq : (dual provider t).concretePairs s r =
    if provider.isPrimaryType s = false then .error (.notPrimary s r .source)
    else if provider.isPrimaryType r = false then .error (.notPrimary s r .target)
    else if (provider.isPrimary s && provider.isPrimary r) = false then .error (.unknownState s r)
    else do
      let a ← alternate t s
      let b ← alternate t r
      return [(s, r), (a, r), (s, b), (a, b)] := by
  cases hs : provider.isPrimaryType s with
  | false => simp [concretePairs, hs]
  | true =>
    cases hr : provider.isPrimaryType r with
    | false => simp [concretePairs, hs, hr]
    | true =>
      cases hp : provider.isPrimary s && provider.isPrimary r with
      | false => simp [concretePairs, hs, hr, hp]
      | true => simp [concretePairs, hs, hr, hp]

theorem alternates_of_concretePairs {ps : List Pair}
    (h : (dual provider t).concretePairs s r = .ok ps) :
    ∃ a b, alternate t s = .ok a ∧ alternate t r = .ok b ∧
      ps = [(s, r), (a, r), (s, b), (a, b)] := by
  rw [concretePairs_dual_eq] at h
  split at h
  · cases h
  · split at h
    · cases h
    · split at h
      · cases h
      · simp only [bind_eq_ok, pure_eq_ok] at h
        obtain ⟨a, ha, b, hb, rfl⟩ := h
        exact ⟨a, b, ha, hb, rfl⟩

theorem concretePairs_dual {ps : List Pair} (h : (dual provider t).concretePairs s r = .ok ps) :
    ∃ a b, Table.lookup? t s = some a ∧ Table.lookup? t r = some b ∧
      ps = [(s, r), (a, r), (s, b), (a, b)] := by
  obtain ⟨a, b, ha, hb, hps⟩ := alternates_of_concretePairs h
  exact ⟨a, b, (alternate_eq_ok.mp ha).2, (alternate_eq_ok.mp hb).2, hps⟩

theorem mem_meet_dual {ps : List Pair} (h : (dual provider t).meet (.move s r) = .ok ps)
    (u v : Value) :
    (∃ p ∈ ps, p.1.key = u.key ∧ p.2.key = v.key) ↔ HasForm t s u ∧ HasForm t r v := by
  obtain ⟨a, b, ha, hb, rfl⟩ := concretePairs_dual h
  simp only [HasForm, ha, hb, List.mem_cons, List.not_mem_nil, or_false, exists_eq_or_imp,
    exists_eq_left, Option.some.injEq, exists_eq_left', eq_comm (b := u.key),
    eq_comm (b := v.key)]
  grind

/-- The demands on a dual domain, once they are met, give their moves in all forms. -/
theorem mem_of_gather_meet_dual {xs : List Demand} {ps : List Pair}
    (h : gather (dual provider t).meet xs = .ok ps) (u v : Value) :
    (∃ m ∈ ps, m.1.key = u.key ∧ m.2.key = v.key) ↔
      ∃ s r, .move s r ∈ xs ∧ HasForm t s u ∧ HasForm t r v := by
  obtain ⟨hall, hmem⟩ := mem_of_gather_eq_ok h
  constructor
  · rintro ⟨m, hm, hk⟩
    obtain ⟨x, hx, here, hmeet, hin⟩ := (hmem m).mp hm
    cases x with
    | malformed x => cases hmeet
    | move s r => exact ⟨s, r, hx, (mem_meet_dual hmeet u v).mp ⟨m, hin, hk⟩⟩
  · rintro ⟨s, r, hx, hforms⟩
    obtain ⟨here, hmeet⟩ := hall _ hx
    obtain ⟨m, hin, hk⟩ := (mem_meet_dual hmeet u v).mpr hforms
    exact ⟨m, (hmem m).mpr ⟨_, hx, here, hmeet, hin⟩, hk⟩

end

end Domain

end Lifecycle
