import Lifecycle.Proofs.Expansion.Gather

namespace Lifecycle

/-- What a rule set asks for: an entry that is none, or a move between two states. -/
inductive Demand where
  | malformed (entry : Value)
  | move (source target : Value)

/-- The entries of a rule set in order, those of a mapping as pairs. -/
def entryValues : Value → List Value
  | .dict _ items => items.map fun e => .tuple [e.1, e.2]
  | v => v.elements?.getD []

/-- A mapping, or anything else that is no text and yields its elements one by one. -/
def Value.IsRules (rules : Value) : Prop :=
  rules.isTextual = false ∧ rules.elements?.isSome = true

def Entry.IsHashable (e : Entry) : Prop :=
  (∀ s ∈ unwrap e.source, s.isHashable = true) ∧ ∀ t ∈ unwrap e.target, t.isHashable = true

namespace Domain

def replace (d : Domain) (s : Value) : List Value := if s.isWildcard then d.states else [s]

/-- The moves of a candidate: a wildcard source varies slower than a wildcard target. -/
def replacements (d : Domain) (c : Pair) : List Pair :=
  (d.replace c.1).flatMap fun s => (d.replace c.2).map fun t => (s, t)

def moves (d : Domain) (e : Entry) : List Pair := (candidates e).flatMap d.replacements

def demandsOf (d : Domain) (x : Value) : List Demand :=
  match Entry.of? x with
  | some e => (d.moves e).map fun m => .move m.1 m.2
  | none => [.malformed x]

/-- All that a rule set asks of a domain, in the order in which it is met. -/
def demands (d : Domain) (rules : Value) : List Demand := (entryValues rules).flatMap d.demandsOf

def meet (d : Domain) : Demand → Except Fault (List Pair)
  | .malformed x => .error (.notAnEntry x)
  | .move s t => d.concretePairs s t

def NoWildcard (d : Domain) : Prop := ∀ s ∈ d.states, s.isWildcard = false

section

variable {rule : Value → Except Fault (List Pair)} {x : Value} {xs : List Value}

theorem go_wildcard (hx : x.isWildcard = true) :
    forEachState.go rule (x :: xs) = .error .endlessExpansion := by
  rw [forEachState.go, if_pos hx]
  rfl

theorem go_cons (hx : x.isWildcard = false) :
    forEachState.go rule (x :: xs) = do
      let here ← rule x
      let there ← forEachState.go rule xs
      return here ++ there := by
  simp [forEachState.go, hx]

end

section

variable (d : Domain)

theorem go_follows (rule : Value → Except Fault (List Pair)) (xs : List Value) :
    Follows (∀ s ∈ xs, s.isWildcard = false) (forEachState.go rule xs) (gather rule xs) := by
  induction xs with
  | nil => exact .refl _ _
  | cons s xs ih =>
    cases hs : s.isWildcard with
    | true =>
      rw [go_wildcard hs]
      constructor
      · intro h
        exact absurd (h s List.mem_cons_self) (by simp [hs])
      · intro ps h
        cases h
    | false =>
      rw [go_cons hs, gather]
      constructor
      · intro h
        rw [ih.eq fun t ht => h t (List.mem_cons_of_mem _ ht)]
      · intro ps h
        simp only [bind_eq_ok] at h ⊢
        obtain ⟨here, hr, there, hg, hp⟩ := h
        exact ⟨here, hr, there, ih.ok _ hg, hp⟩

theorem replaced_follows (rule : Value → Except Fault (List Pair)) (s : Value) :
    Follows d.NoWildcard (if s.isWildcard then d.forEachState rule else rule s)
      (gather rule (d.replace s)) := by
  unfold replace
  cases s.isWildcard with
  | true => exact go_follows rule d.states
  | false =>
    rw [if_neg (by simp), if_neg (by simp), gather_singleton]
    exact .refl _ _

theorem expandTarget_follows (s t : Value) :
    Follows d.NoWildcard (d.expandTarget s t) (gather (d.concretePairs s) (d.replace t)) :=
  d.replaced_follows (d.concretePairs s) t

theorem expandCandidate_follows (c : Pair) :
    Follows d.NoWildcard (d.expandCandidate c.1 c.2)
      (gather (fun m => d.concretePairs m.1 m.2) (d.replacements c)) := by
  -- the source is replaced first, and the target anew for each of its replacements
  have hs := d.replaced_follows (fun s => d.expandTarget s c.2) c.1
  have ht : Follows d.NoWildcard (gather (fun s => d.expandTarget s c.2) (d.replace c.1))
      (gather (fun s => gather (d.concretePairs s) (d.replace c.2)) (d.replace c.1)) :=
    gather_follows fun s _ => d.expandTarget_follows s c.2
  rw [replacements, gather_flatMap]
  simp only [gather_map]
  exact hs.trans ht

theorem expandAll_eq_gather (cs : List Pair) :
    d.expandAll cs = gather (fun c => d.expandCandidate c.1 c.2) cs := by
  induction cs with
  | nil => rfl
  | cons c cs ih => rw [expandAll, gather, ih]

theorem expandAll_follows (e : Entry) :
    Follows d.NoWildcard (d.expandAll (candidates e))
      (gather (fun m => d.concretePairs m.1 m.2) (d.moves e)) := by
  rw [expandAll_eq_gather, moves, gather_flatMap]
  exact gather_follows fun c _ => d.expandCandidate_follows c

/-- An element of a rule set as an entry, or the fault of being none. -/
def readEntry (x : Value) : Except Fault Entry :=
  match Entry.of? x with
  | some e => .ok e
  | none => .error (.notAnEntry x)

theorem expandEntries_eq_gather (xs : List Value) :
    d.expandEntries (xs.map readEntry) =
      gather (fun x => do d.expandAll (candidates (← readEntry x))) xs := by
  induction xs with
  | nil => rfl
  | cons x xs ih =>
    rw [List.map_cons, expandEntries, gather, ih]
    cases readEntry x <;> rfl

/-- Expanding entry by entry, lazily, is meeting the demands in order. -/
theorem expandEntries_follows (xs : List Value) :
    Follows d.NoWildcard (d.expandEntries (xs.map readEntry))
      (gather d.meet (xs.flatMap d.demandsOf)) := by
  rw [expandEntries_eq_gather, gather_flatMap]
  refine gather_follows fun x _ => ?_
  unfold readEntry demandsOf
  cases Entry.of? x with
  | none =>
    rw [gather_singleton]
    exact .refl _ _
  | some e =>
    rw [gather_map]
    exact d.expandAll_follows e

end

theorem rawEntries_of_isRules {rules : Value} (h : rules.IsRules) :
    rawEntries rules = .ok ((entryValues rules).map readEntry) := by
  obtain ⟨ht, he⟩ := h
  obtain ⟨xs, hx⟩ := Option.isSome_iff_exists.mp he
  unfold rawEntries entryValues
  split
  · simp [readEntry, Entry.of?]
  · simp only [ht, hx, Option.getD_some]
    rfl

theorem isRules_of_rawEntries {rules : Value} {raw : List (Except Fault Entry)}
    (h : rawEntries rules = .ok raw) : rules.IsRules := by
  unfold rawEntries at h
  split at h
  · exact ⟨rfl, rfl⟩
  · unfold Value.IsRules
    cases ht : rules.isTextual with
    | true => simp [ht] at h
    | false =>
      cases he : rules.elements? with
      | none => simp [ht, he] at h
      | some xs => exact ⟨rfl, rfl⟩

def finish (d : Domain) (rules : Value) (ps : List Pair) : Except Fault Expansion := do
  needAllHashable (ps.map Pair.value)
  return ⟨d, distinct (ps.map Pair.value), (entryValues rules).length⟩

theorem expand_of_isRules (d : Domain) {rules : Value} (h : rules.IsRules) :
    d.expand rules = d.expandEntries ((entryValues rules).map readEntry) >>= d.finish rules := by
  simp only [expand, rawEntries_of_isRules h, ok_bind, List.length_map]
  rfl

theorem expand_follows (d : Domain) {rules : Value} (h : rules.IsRules) :
    Follows d.NoWildcard (d.expand rules) (gather d.meet (d.demands rules) >>= d.finish rules) := by
  have hf := d.expandEntries_follows (entryValues rules)
  rw [d.expand_of_isRules h]
  constructor
  · intro hw
    rw [hf.eq hw]
    rfl
  · intro e h
    rw [bind_eq_ok] at h ⊢
    obtain ⟨ps, hps, hfin⟩ := h
    exact ⟨ps, hf.ok ps hps, hfin⟩

theorem finish_eq_ok {d : Domain} {rules : Value} {ps : List Pair} {e : Expansion} :
    d.finish rules ps = .ok e ↔ (∀ p ∈ ps, (Pair.value p).isHashable = true) ∧
      e = ⟨d, distinct (ps.map Pair.value), (entryValues rules).length⟩ := by
  simp only [finish, bind_eq_ok, pure_eq_ok]
  constructor
  · rintro ⟨_, hh, rfl⟩
    exact ⟨fun p hp => needAllHashable_eq_ok.mp hh _ (List.mem_map_of_mem hp), rfl⟩
  · rintro ⟨hh, rfl⟩
    refine ⟨(), needAllHashable_eq_ok.mpr ?_, rfl⟩
    intro v hv
    obtain ⟨p, hp, rfl⟩ := List.mem_map.mp hv
    exact hh p hp

/-- Without a wildcard state the first demand that is refused decides, and else all are met. -/
theorem expand_eq {d : Domain} {rules : Value} (hw : d.NoWildcard) (hr : rules.IsRules) :
    d.expand rules = match (d.demands rules).findSome? fun x => faultOf (d.meet x) with
      | some f => .error f
      | none => d.finish rules ((d.demands rules).flatMap fun x => (d.meet x).toOption.getD []) := by
  rw [(d.expand_follows hr).eq hw, gather_eq]
  cases (d.demands rules).findSome? fun x => faultOf (d.meet x) <;> rfl

/-- A rule set that expands is a sequence of entries whose moves are all valid, and its pairs are
what they give. -/
theorem met_of_expand {d : Domain} {rules : Value} {e : Expansion} (h : d.expand rules = .ok e) :
    rules.IsRules ∧ ∃ ps, gather d.meet (d.demands rules) = .ok ps ∧
      (∀ p ∈ ps, (Pair.value p).isHashable = true) ∧ e.pairs = distinct (ps.map Pair.value) := by
  have hr : rules.IsRules := by
    rw [expand, bind_eq_ok] at h
    obtain ⟨raw, hraw, _⟩ := h
    exact isRules_of_rawEntries hraw
  obtain ⟨ps, hps, hfin⟩ := bind_eq_ok.mp ((d.expand_follows hr).ok e h)
  obtain ⟨hh, rfl⟩ := finish_eq_ok.mp hfin
  exact ⟨hr, ps, hps, hh, rfl⟩

theorem mem_demandsOf_move {d : Domain} {x s t : Value} :
    .move s t ∈ d.demandsOf x ↔ ∃ e, Entry.of? x = some e ∧ (s, t) ∈ d.moves e := by
  unfold demandsOf
  cases Entry.of? x with
  | none => simp
  | some e => simp

theorem mem_demands_move {d : Domain} {rules s t : Value} :
    .move s t ∈ d.demands rules ↔
      ∃ x ∈ entryValues rules, ∃ e, Entry.of? x = some e ∧ (s, t) ∈ d.moves e := by
  simp only [demands, List.mem_flatMap, mem_demandsOf_move]

theorem mem_moves {d : Domain} {e : Entry} {s t : Value} :
    (s, t) ∈ d.moves e ↔
      (∃ a ∈ unwrap e.source, s ∈ d.replace a) ∧ ∃ b ∈ unwrap e.target, t ∈ d.replace b := by
  simp only [moves, candidates, replacements, List.mem_flatMap, List.mem_map, Prod.exists,
    Prod.mk.injEq]
  constructor
  · rintro ⟨_, _, ⟨a, ha, b, hb, rfl, rfl⟩, s', hs, t', ht, rfl, rfl⟩
    exact ⟨⟨a, ha, hs⟩, b, hb, ht⟩
  · rintro ⟨⟨a, ha, hs⟩, b, hb, ht⟩
    exact ⟨a, b, ⟨a, ha, b, hb, rfl, rfl⟩, s, hs, t, ht, rfl, rfl⟩

theorem isHashable_of_mem_replace {d : Domain} (hd : ∀ s ∈ d.states, s.isHashable = true)
    {a s : Value} (ha : a.isHashable = true) (hs : s ∈ d.replace a) : s.isHashable = true := by
  unfold replace at hs
  split at hs
  · exact hd s hs
  · rw [List.mem_singleton.mp hs]
    exact ha

end Domain

end Lifecycle
