import Lifecycle.Proofs.Expansion.Unknown

namespace Lifecycle

/-- An entry taken apart: one entry for each of its candidates, in order, with one state on a side. -/
def Entry.singles (e : Entry) : List Value :=
  (Domain.candidates e).map fun c => .tuple [.list 0 [c.1], .list 0 [c.2]]

theorem holds_append (xs ys : List Value) (v : Value) :
    holds (xs ++ ys) v = (holds xs v || holds ys v) := List.any_append

namespace Domain

variable {d : Domain} {rules : Value} {ps : List Pair} {e : Expansion} {f : Fault}

/-- The pairs of one element of a rule set. -/
def expandEntry (d : Domain) (x : Value) : Except Fault (List Pair) := do
  d.expandAll (candidates (← readEntry x))

theorem expand_eq_gather (d : Domain) (hr : rules.IsRules) :
    d.expand rules = gather d.expandEntry (entryValues rules) >>= d.finish rules := by
  rw [d.expand_of_isRules hr, expandEntries_eq_gather]
  rfl

/-- What can stand in no set is found out last, when all entries have been gone through, and is not
told in the library's own terms. -/
theorem not_isOwn_of_finish (h : d.finish rules ps = .error f) : f.isOwn = false := by
  unfold finish at h
  cases hh : needAllHashable (ps.map Pair.value) with
  | ok _ =>
    rw [hh] at h
    cases h
  | error g =>
    rw [hh] at h
    cases h
    exact isForeign_needAllHashable _ _ hh

theorem gather_of_isOwn (hr : rules.IsRules) (hf : f.isOwn = true)
    (h : d.expand rules = .error f) : gather d.expandEntry (entryValues rules) = .error f := by
  rw [d.expand_eq_gather hr] at h
  cases hg : gather d.expandEntry (entryValues rules) with
  | error g =>
    rw [hg] at h
    cases h
    rfl
  | ok ps =>
    rw [hg, ok_bind] at h
    have hno := not_isOwn_of_finish h
    rw [hf] at hno
    cases hno

theorem gather_of_expand (hr : rules.IsRules) (h : d.expand rules = .ok e) :
    ∃ ps, gather d.expandEntry (entryValues rules) = .ok ps ∧
      (∀ p ∈ ps, (Pair.value p).isHashable = true) ∧ e.pairs = distinct (ps.map Pair.value) := by
  rw [d.expand_eq_gather hr, bind_eq_ok] at h
  obtain ⟨ps, hps, hfin⟩ := h
  obtain ⟨hh, rfl⟩ := finish_eq_ok.mp hfin
  exact ⟨ps, hps, hh, rfl⟩

section

variable {first second both : Value} (hf : first.IsRules) (hs : second.IsRules)
  (hb : both.IsRules) (he : entryValues both = entryValues first ++ entryValues second)

include hb he in
theorem expand_both_eq : d.expand both = (do
    let here ← gather d.expandEntry (entryValues first)
    let there ← gather d.expandEntry (entryValues second)
    d.finish both (here ++ there)) := by
  rw [d.expand_eq_gather hb, he, gather_append]
  cases gather d.expandEntry (entryValues first) with
  | error g => rfl
  | ok here => cases gather d.expandEntry (entryValues second) <;> rfl

include hf hs hb he in
theorem expand_both_of_ok {e₁ e₂ : Expansion} (h₁ : d.expand first = .ok e₁)
    (h₂ : d.expand second = .ok e₂) : ∃ e, d.expand both = .ok e ∧
      ∀ v, holds e.pairs v = (holds e₁.pairs v || holds e₂.pairs v) := by
  obtain ⟨ps, hps, hph, hp⟩ := gather_of_expand hf h₁
  obtain ⟨qs, hqs, hqh, hq⟩ := gather_of_expand hs h₂
  have hh : ∀ p ∈ ps ++ qs, (Pair.value p).isHashable = true := by
    intro p hmem
    rcases List.mem_append.mp hmem with hmem | hmem
    · exact hph p hmem
    · exact hqh p hmem
  -- the pairs of both are those of the one before those of the other, and repeated ones count once
  refine ⟨⟨d, distinct ((ps ++ qs).map Pair.value), (entryValues both).length⟩, ?_, ?_⟩
  · rw [expand_both_eq hb he, hps, ok_bind, hqs, ok_bind]
    exact finish_eq_ok.mpr ⟨hh, rfl⟩
  · intro v
    rw [hp, hq, holds_distinct, holds_distinct, holds_distinct, List.map_append, holds_append]

include hf hb he in
theorem expand_both_of_first (hown : f.isOwn = true) (h : d.expand first = .error f) :
    d.expand both = .error f := by
  rw [expand_both_eq hb he, gather_of_isOwn hf hown h]
  rfl

include hf hs hb he in
theorem expand_both_of_second (hown : f.isOwn = true) (h₁ : d.expand first = .ok e)
    (h : d.expand second = .error f) : d.expand both = .error f := by
  obtain ⟨ps, hps, _⟩ := gather_of_expand hf h₁
  rw [expand_both_eq hb he, hps, ok_bind, gather_of_isOwn hs hown h]
  rfl

end

/-- An entry taken apart has the candidates that it has as a whole. -/
theorem gather_singles (d : Domain) (e : Entry) :
    gather d.expandEntry e.singles = d.expandAll (candidates e) := by
  have hone : ∀ c : Pair, d.expandEntry (.tuple [.list 0 [c.1], .list 0 [c.2]]) =
      d.expandCandidate c.1 c.2 := by
    intro c
    have hc : d.expandEntry (.tuple [.list 0 [c.1], .list 0 [c.2]]) = d.expandAll [c] := rfl
    rw [hc, expandAll_eq_gather, gather_singleton]
  rw [Entry.singles, gather_map, expandAll_eq_gather]
  simp only [hone]

theorem pairs_finish_congr {rules' : Value} :
    (d.finish rules ps).map Expansion.pairs = (d.finish rules' ps).map Expansion.pairs := by
  unfold finish
  cases needAllHashable (ps.map Pair.value) <;> rfl

theorem expand_singles {parts entry : Value} {e : Entry} {before after : List Value}
    (hr : rules.IsRules) (hp : parts.IsRules) (he : Entry.of? entry = some e)
    (hrules : entryValues rules = before ++ entry :: after)
    (hparts : entryValues parts = before ++ e.singles ++ after) :
    (d.expand parts).map Expansion.pairs = (d.expand rules).map Expansion.pairs := by
  have hentry : d.expandEntry entry = gather d.expandEntry e.singles := by
    rw [gather_singles, expandEntry, readEntry, he]
    rfl
  have hgather : gather d.expandEntry (entryValues parts) =
      gather d.expandEntry (entryValues rules) := by
    rw [hparts, hrules, List.append_assoc, gather_append, gather_append, gather_append, gather,
      hentry]
  rw [d.expand_eq_gather hp, d.expand_eq_gather hr, hgather]
  cases gather d.expandEntry (entryValues rules) with
  | error g => rfl
  | ok ps => exact pairs_finish_congr

/-- Rule sets compose: what comes of two of them tells what comes of both, one after the other. They
allow together what either allows; else the first fault of an entry is the fault of both. Taking an
entry apart into its candidates changes nothing. -/
theorem expand_append (d : Domain) {first second both : Value} (hf : first.IsRules)
    (hs : second.IsRules) (hb : both.IsRules)
    (he : entryValues both = entryValues first ++ entryValues second) :
    (match d.expand first, d.expand second with
      | .ok e₁, .ok e₂ => ∃ e, d.expand both = .ok e ∧
          ∀ v, holds e.pairs v = (holds e₁.pairs v || holds e₂.pairs v)
      | .ok _, .error f => f.isOwn = true → d.expand both = .error f
      | .error f, _ => f.isOwn = true → d.expand both = .error f) ∧
    ∀ (before after : List Value) (entry parts : Value) (e : Entry), Entry.of? entry = some e →
      entryValues first = before ++ entry :: after → parts.IsRules →
      entryValues parts = before ++ e.singles ++ after →
      (d.expand parts).map Expansion.pairs = (d.expand first).map Expansion.pairs := by
  constructor
  · cases h₁ : d.expand first with
    | error f => exact fun hown => expand_both_of_first hf hb he hown h₁
    | ok e₁ =>
      cases h₂ : d.expand second with
      | error f => exact fun hown => expand_both_of_second hf hs hb he hown h₁ h₂
      | ok e₂ => exact expand_both_of_ok hf hs hb he h₁ h₂
  · intro before after entry parts e hentry hfirst hp hparts
    exact expand_singles hf hp hentry hfirst hparts

/-- Over a provider of one's own, a mapping of rules and a list of rules that names a state no one
knows. The mapping's rule may as well be written with a list on either side. -/
theorem expand_append_unknown :
    let t : Table := [(.int 1, .text "a"), (.int 2, .text "b")]
    let d : Domain := .dual (.custom "p" t ["int"] [.int 1, .int 2]) t
    let first : Value := .dict 0 [(.tuple [.int 1, .text "*"], .int 2)]
    let second : Value := .list 0 [.tuple [.int 2, .tuple [.int 1, .int 9]]]
    let both : Value := .tuple [.tuple [.tuple [.int 1, .text "*"], .int 2],
      .tuple [.int 2, .tuple [.int 1, .int 9]]]
    let parts : Value := .list 0 [.tuple [.list 0 [.int 1], .list 0 [.int 2]],
      .tuple [.list 0 [.text "*"], .list 0 [.int 2]]]
    first.IsRules ∧ second.IsRules ∧ both.IsRules ∧ parts.IsRules ∧
      d.expand both = .error (.unknownState (.int 2) (.int 9)) ∧
      ∃ e e', d.expand first = .ok e ∧ d.expand parts = .ok e' ∧ e'.pairs = e.pairs := by
  intro t d first second both parts
  have hf : first.IsRules := ⟨rfl, rfl⟩
  have hs : second.IsRules := ⟨rfl, rfl⟩
  have hb : both.IsRules := ⟨rfl, rfl⟩
  have hp : parts.IsRules := ⟨rfl, rfl⟩
  have he : entryValues both = entryValues first ++ entryValues second := rfl
  obtain ⟨hmatch, hsingles⟩ := expand_append d hf hs hb he
  obtain ⟨e, h₁⟩ : ∃ e, d.expand first = .ok e := ⟨_, rfl⟩
  have h₂ : d.expand second = .error (.unknownState (.int 2) (.int 9)) := rfl
  rw [h₁, h₂] at hmatch
  have hsame := hsingles [] [] _ parts _ rfl rfl hp rfl
  rw [h₁] at hsame
  refine ⟨hf, hs, hb, hp, hmatch rfl, e, ?_⟩
  cases hparts : d.expand parts with
  | error f =>
    rw [hparts] at hsame
    cases hsame
  | ok e' =>
    rw [hparts] at hsame
    exact ⟨e', h₁, rfl, Except.ok.inj hsame⟩

end Domain

end Lifecycle
