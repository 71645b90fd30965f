import Mathlib.Data.List.Perm.Basic
import Lifecycle.Proofs.Expansion.Composition

namespace Lifecycle

/-- If the first pairs can all stand in a set, so can the others, and each of these equals one of the
first. -/
def Covered (ps qs : List Pair) : Prop :=
  (∀ p ∈ ps, (Pair.value p).isHashable = true) → ∀ q ∈ qs,
    (Pair.value q).isHashable = true ∧ ∃ p ∈ ps, (Pair.value p).key = (Pair.value q).key

/-- If the first outcome is a success, so is the other, with pairs that the first covers. -/
def Covers (x y : Except Fault (List Pair)) : Prop :=
  ∀ ps, x = .ok ps → ∃ qs, y = .ok qs ∧ Covered ps qs

/-- An element of a rule set is another one with the states of its sides in another order. -/
def Entry.Reordered (e f : Entry) : Prop :=
  (unwrap e.source).Perm (unwrap f.source) ∧ (unwrap e.target).Perm (unwrap f.target)

/-- The same of what may turn out to be no entry. -/
def ReorderedEntry (x y : Value) : Prop := Option.Rel Entry.Reordered (Entry.of? x) (Entry.of? y)

/-- Another rule set has the elements of a rule set, all in another order and each reordered. -/
structure ReorderedRules (rules rules' : Value) : Prop where
  left : rules.IsRules
  right : rules'.IsRules
  elements : ∃ mid, (entryValues rules).Perm mid ∧
    List.Forall₂ ReorderedEntry mid (entryValues rules')

theorem exists_mem_of_forall₂ {α β : Type} {r : α → β → Prop} {xs : List α} {ys : List β}
    (h : List.Forall₂ r xs ys) {y : β} (hy : y ∈ ys) : ∃ x ∈ xs, r x y := by
  induction h with
  | nil => cases hy
  | cons hxy _ ih =>
    rcases List.mem_cons.mp hy with rfl | hy
    · exact ⟨_, List.mem_cons_self, hxy⟩
    · obtain ⟨x, hx, hr⟩ := ih hy
      exact ⟨x, List.mem_cons_of_mem _ hx, hr⟩

theorem Entry.Reordered.symm {e f : Entry} (h : e.Reordered f) : f.Reordered e :=
  ⟨h.1.symm, h.2.symm⟩

theorem ReorderedEntry.symm {x y : Value} (h : ReorderedEntry x y) : ReorderedEntry y x := by
  unfold ReorderedEntry at *
  generalize Entry.of? x = a, Entry.of? y = b at h
  cases h with
  | none => exact .none
  | some h => exact .some h.symm

theorem ReorderedRules.symm {rules rules' : Value} (h : ReorderedRules rules rules') :
    ReorderedRules rules' rules := by
  obtain ⟨mid, hperm, hrel⟩ := h.elements
  obtain ⟨mid', hrel', hperm'⟩ := List.perm_comp_forall₂ hperm hrel
  exact ⟨h.right, h.left, mid', hperm'.symm, (hrel'.imp fun _ _ h => h.symm).flip⟩

section

variable {α β : Type} {ps qs rs : List Pair}

theorem Covered.refl (ps : List Pair) : Covered ps ps := fun h p hp => ⟨h p hp, p, hp, rfl⟩

theorem Covered.append (hq : Covered ps qs) (hr : Covered ps rs) : Covered ps (qs ++ rs) := by
  intro h p hp
  rcases List.mem_append.mp hp with hp | hp
  · exact hq h p hp
  · exact hr h p hp

theorem Covered.mono (hsub : ∀ p ∈ ps, p ∈ rs) (hq : Covered ps qs) : Covered rs qs := by
  intro h p hp
  obtain ⟨hh, q, hq, hk⟩ := hq (fun p hp => h p (hsub p hp)) p hp
  exact ⟨hh, q, hsub q hq, hk⟩

theorem gather_covers {f : α → Except Fault (List Pair)} {g : β → Except Fault (List Pair)}
    {xs : List α} {ys : List β} (h : ∀ y ∈ ys, ∃ x ∈ xs, Covers (f x) (g y)) :
    Covers (gather f xs) (gather g ys) := by
  intro ps hps
  obtain ⟨hall, hmem⟩ := mem_of_gather_eq_ok hps
  induction ys with
  | nil => exact ⟨[], rfl, fun _ q hq => nomatch hq⟩
  | cons y ys ih =>
    obtain ⟨x, hx, hxy⟩ := h y List.mem_cons_self
    obtain ⟨rest, hrest, hcov⟩ := ih fun z hz => h z (List.mem_cons_of_mem _ hz)
    obtain ⟨here, hf⟩ := hall x hx
    obtain ⟨there, hg, hthere⟩ := hxy here hf
    have hsub : ∀ p ∈ here, p ∈ ps := fun p hp => (hmem p).mpr ⟨x, hx, here, hf, hp⟩
    exact ⟨there ++ rest, gather_cons_eq_ok.mpr ⟨there, rest, hg, hrest, rfl⟩,
      (hthere.mono hsub).append hcov⟩

end

namespace Domain

theorem go_eq_ok {rule : Value → Except Fault (List Pair)} {xs : List Value} {ps : List Pair} :
    forEachState.go rule xs = .ok ps ↔
      (∀ s ∈ xs, s.isWildcard = false) ∧ gather rule xs = .ok ps := by
  have hf := go_follows rule xs
  constructor
  · intro h
    refine ⟨?_, hf.ok ps h⟩
    clear hf
    induction xs generalizing ps with
    | nil => simp
    | cons s xs ih =>
      cases hs : s.isWildcard with
      | true =>
        rw [go_wildcard hs] at h
        cases h
      | false =>
        rw [go_cons hs] at h
        simp only [bind_eq_ok] at h
        obtain ⟨_, _, _, hgo, _⟩ := h
        exact List.forall_mem_cons.mpr ⟨hs, ih hgo⟩
  · rintro ⟨hw, hg⟩
    rw [hf.eq hw, hg]

/-- One domain does what another does, where states of the one stand for states of the other: every
state of the second stands for one of the first, and a move between the one kind of states covers the
move between the other. -/
structure Covers (stands : Value → Value → Prop) (d d' : Domain) : Prop where
  refl : ∀ s, stands s s
  states : ∀ s' ∈ d'.states, ∃ s ∈ d.states, stands s s' ∧ s.isWildcard = s'.isWildcard
  moves : ∀ {s s' t t'}, stands s s' → stands t t' →
    Lifecycle.Covers (d.concretePairs s t) (d'.concretePairs s' t')

section

variable {stands : Value → Value → Prop} {d d' : Domain} (hd : Covers stands d d')

include hd

theorem forEachState_covers {rule rule' : Value → Except Fault (List Pair)}
    (h : ∀ {s s'}, stands s s' → Lifecycle.Covers (rule s) (rule' s')) :
    Lifecycle.Covers (d.forEachState rule) (d'.forEachState rule') := by
  intro ps hps
  obtain ⟨hw, hg⟩ := go_eq_ok.mp hps
  have hall : ∀ s' ∈ d'.states, ∃ s ∈ d.states, Lifecycle.Covers (rule s) (rule' s') := by
    intro s' hs'
    obtain ⟨s, hs, hst, _⟩ := hd.states s' hs'
    exact ⟨s, hs, h hst⟩
  obtain ⟨qs, hqs, hcov⟩ := gather_covers hall ps hg
  refine ⟨qs, go_eq_ok.mpr ⟨?_, hqs⟩, hcov⟩
  intro s' hs'
  obtain ⟨s, hs, _, hsame⟩ := hd.states s' hs'
  exact hsame ▸ hw s hs

theorem expandTarget_covers {s s' : Value} (hs : stands s s') (t : Value) :
    Lifecycle.Covers (d.expandTarget s t) (d'.expandTarget s' t) := by
  unfold expandTarget
  cases t.isWildcard with
  | true => exact forEachState_covers hd fun ht => hd.moves hs ht
  | false => exact hd.moves hs (hd.refl t)

theorem expandCandidate_covers (c : Pair) :
    Lifecycle.Covers (d.expandCandidate c.1 c.2) (d'.expandCandidate c.1 c.2) := by
  unfold expandCandidate
  cases c.1.isWildcard with
  | true => exact forEachState_covers hd fun hs => expandTarget_covers hd hs c.2
  | false => exact expandTarget_covers hd (hd.refl c.1) c.2

theorem expandEntry_covers {x y : Value} (h : ReorderedEntry x y) :
    Lifecycle.Covers (d.expandEntry x) (d'.expandEntry y) := by
  unfold ReorderedEntry at h
  unfold expandEntry readEntry
  cases hx : Entry.of? x with
  | none => exact fun _ h => nomatch h
  | some e =>
    cases hy : Entry.of? y with
    | none =>
      rw [hx, hy] at h
      cases h
    | some f =>
      rw [hx, hy] at h
      obtain ⟨hsource, htarget⟩ : e.Reordered f := by cases h; assumption
      rw [ok_bind, ok_bind, expandAll_eq_gather, expandAll_eq_gather]
      -- the candidates are the same ones, in another order
      apply gather_covers
      intro c hc
      refine ⟨c, ?_, expandCandidate_covers hd c⟩
      simp only [candidates, List.mem_flatMap, List.mem_map] at hc ⊢
      obtain ⟨s, hs, t, ht, rfl⟩ := hc
      exact ⟨s, hsource.mem_iff.mpr hs, t, htarget.mem_iff.mpr ht, rfl⟩

/-- A domain that does what another does expands reordered rules when the other expands the rules, and
then to nothing but what comes of these. -/
theorem expand_of_covers {rules rules' : Value} (h : ReorderedRules rules rules') {e : Expansion}
    (he : d.expand rules = .ok e) : ∃ e', d'.expand rules' = .ok e' ∧
      ∀ v, holds e'.pairs v = true → holds e.pairs v = true := by
  obtain ⟨ps, hps, hh, hpairs⟩ := gather_of_expand h.left he
  obtain ⟨mid, hperm, hrel⟩ := h.elements
  have hall : ∀ y ∈ entryValues rules', ∃ x ∈ entryValues rules,
      Lifecycle.Covers (d.expandEntry x) (d'.expandEntry y) := by
    intro y hy
    obtain ⟨x, hx, hxy⟩ := exists_mem_of_forall₂ hrel hy
    exact ⟨x, hperm.mem_iff.mpr hx, expandEntry_covers hd hxy⟩
  obtain ⟨qs, hqs, hcov⟩ := gather_covers hall ps hps
  have hcov := hcov hh
  refine ⟨⟨d', distinct (qs.map Pair.value), (entryValues rules').length⟩, ?_, ?_⟩
  · rw [d'.expand_eq_gather h.right, hqs]
    exact finish_eq_ok.mpr ⟨fun q hmem => (hcov q hmem).1, rfl⟩
  · intro v hv
    rw [holds_distinct, holds_iff] at hv
    obtain ⟨_, hmem, hk⟩ := hv
    obtain ⟨q, hq, rfl⟩ := List.mem_map.mp hmem
    obtain ⟨p, hp, hpq⟩ := (hcov q hq).2
    rw [hpairs, holds_distinct, holds_iff]
    exact ⟨_, List.mem_map_of_mem hp, hpq.trans hk⟩

end

end Domain

end Lifecycle
