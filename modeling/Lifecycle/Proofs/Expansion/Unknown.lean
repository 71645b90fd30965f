import Lifecycle.Proofs.Expansion.Flat
import Lifecycle.Proofs.Expansion.Membership
import Lifecycle.Proofs.Foreign

namespace Lifecycle

/-- A rule set mentions a value by itself or among others, on one side of an entry. -/
def Value.Mentions (rules s : Value) : Prop :=
  ∃ x ∈ entryValues rules, ∃ e, Entry.of? x = some e ∧ (s ∈ unwrap e.source ∨ s ∈ unwrap e.target)

theorem faultOf_eq_some {α : Type} {x : Except Fault α} {f : Fault} :
    faultOf x = some f ↔ x = .error f := by
  cases x <;> simp [faultOf]

namespace Domain

/-- A value is one of the states of a domain: it can be a key, and equals one of them. -/
def knows (d : Domain) (v : Value) : Bool := v.isHashable && holds d.states v

/-- What comes of looking up an alternate that is not there: the value can be no key, or is a missing
one. -/
def missed (v : Value) : Fault :=
  match v.mutablePart? with
  | some type => Fault.unhashable type
  | none => .missingKey v

variable {d : Domain} {provider : Provider} {t : Table} {on rules s r x : Value} {f : Fault}
  {e : Entry}

theorem of_declare (hon : on.elements?.isSome = true) (hd : declare on = .ok d) :
    (∃ c, on = .enumeration c ∧ ofProvider (.enumeration c) = .ok d) ∨
      (∃ id items, on = .dict id items ∧ ofProvider (.mapping items) = .ok d) ∨
        ∃ xs, ofStates on xs = .ok d := by
  unfold declare at hd
  split at hd
  · cases hon
  · exact .inl ⟨_, rfl, hd⟩
  · cases hon
  · exact .inr (.inl ⟨_, _, rfl, hd⟩)
  · cases hd
  · cases hd
  · split at hd
    · cases hd
    · split at hd
      next xs _ => exact .inr (.inr ⟨xs, hd⟩)
      next he =>
        rw [he] at hon
        cases hon

theorem knows_dual (provider : Provider) (t : Table) (v : Value) :
    (dual provider t).knows v = (v.isHashable && Table.hasKey t v) := by
  have hkeys : holds (Table.keys t) v = Table.hasKey t v := Bool.eq_iff_iff.mpr holds_keys_iff
  rw [knows, states, hkeys]

theorem knows_of_mem_states (ht : AreAlternates t) (hs : s ∈ (dual provider t).states) :
    (dual provider t).knows s = true := by
  obtain ⟨m, hm, rfl⟩ := List.mem_map.mp hs
  rw [knows_dual, (ht.hashable m hm).1, Table.hasKey_iff.mpr ⟨m, hm, rfl⟩]
  rfl

theorem exists_alternate (h : (dual provider t).knows s = true) : ∃ a, alternate t s = .ok a := by
  rw [knows_dual, Bool.and_eq_true, Table.hasKey_eq_isSome] at h
  obtain ⟨a, ha⟩ := Option.isSome_iff_exists.mp h.2
  exact ⟨a, alternate_eq_ok.mpr ⟨h.1, ha⟩⟩

theorem alternate_of_not_knows (h : (dual provider t).knows s = false) :
    alternate t s = .error (missed s) := by
  rw [knows_dual, Value.isHashable, Table.hasKey_eq_isSome] at h
  unfold alternate Table.lookup Value.needHashable missed
  cases hm : s.mutablePart? with
  | some type => rfl
  | none =>
    have hl : Table.lookup? t s = none := by simpa [hm] using h
    rw [hl]
    rfl

/-- A move in a dual domain fails in the library's own terms, or for a side that counts as a primary and
is none of the states. -/
theorem concretePairs_dual_eq_error (h : (dual provider t).concretePairs s r = .error f) :
    f.isOwn = true ∨ ∃ x, (x = s ∨ x = r) ∧ provider.isPrimary x = true ∧
      (dual provider t).knows x = false ∧ f = missed x := by
  rw [concretePairs_dual_eq] at h
  split at h
  · cases h
    exact .inl rfl
  · split at h
    · cases h
      exact .inl rfl
    · split at h
      · cases h
        exact .inl rfl
      next hp =>
        -- both sides pass for primaries, and the alternate of the source is looked up first
        obtain ⟨hps, hpr⟩ := Bool.and_eq_true_iff.mp (Bool.not_eq_false _ ▸ hp)
        right
        cases hs : (dual provider t).knows s with
        | false =>
          rw [alternate_of_not_knows hs] at h
          cases h
          exact ⟨s, .inl rfl, hps, hs, rfl⟩
        | true =>
          obtain ⟨a, ha⟩ := exists_alternate hs
          cases hr : (dual provider t).knows r with
          | false =>
            rw [ha, alternate_of_not_knows hr] at h
            cases h
            exact ⟨r, .inr rfl, hpr, hr, rfl⟩
          | true =>
            obtain ⟨b, hb⟩ := exists_alternate hr
            rw [ha, hb] at h
            cases h

theorem isPrimary_mapping (items : Table) (v : Value) : (Provider.mapping items).isPrimary v =
    (dual (.mapping items) (Table.ofList items)).knows v := by
  rw [knows_dual, Table.hasKey_ofList]
  rfl

theorem isOwn_of_concretePairs_flat {states : List Value}
    (h : (flat states).concretePairs s r = .error f) : f.isOwn = true := by
  rw [concretePairs] at h
  split at h
  · cases h
  · cases h
    rfl

theorem mem_replace_self (h : x.isWildcard = false) : x ∈ d.replace x := by
  rw [replace, h]
  exact List.mem_singleton_self x

theorem exists_move_of_mentioned (hx : x ∈ unwrap e.source ∨ x ∈ unwrap e.target)
    (hw : x.isWildcard = false) (hm : d.moves e ≠ []) :
    ∃ s r, (s, r) ∈ d.moves e ∧ (s = x ∨ r = x) := by
  obtain ⟨⟨s, r⟩, hsr⟩ := List.exists_mem_of_ne_nil _ hm
  obtain ⟨hs, hr⟩ := mem_moves.mp hsr
  rcases hx with hx | hx
  · exact ⟨x, r, mem_moves.mpr ⟨⟨x, hx, mem_replace_self hw⟩, hr⟩, .inl rfl⟩
  · exact ⟨s, x, mem_moves.mpr ⟨hs, x, hx, mem_replace_self hw⟩, .inr rfl⟩

theorem mentioned_of_mem_replace {a : Value} (ht : AreAlternates t)
    (hs : s ∈ (dual provider t).replace a) (hk : (dual provider t).knows s = false) : s = a := by
  unfold replace at hs
  split at hs
  · rw [knows_of_mem_states ht hs] at hk
    cases hk
  · exact List.mem_singleton.mp hs

/-- Whatever a rule set asks in vain of a domain that is declared by a collection, an enumeration or
a mapping is refused in the library's own terms, or asks for the alternate of an instance of the
enumeration that is none of its members. -/
theorem meet_eq_error (hon : on.elements?.isSome = true) (hd : declare on = .ok d) {y : Demand}
    (hy : y ∈ d.demands rules) (h : d.meet y = .error f) : f.isOwn = true ∨
      ∃ c, on = .enumeration c ∧ ∃ x, rules.Mentions x ∧ x.isInstance c.typeName = true ∧
        d.knows x = false ∧ f = missed x := by
  cases y with
  | malformed y =>
    cases h
    exact .inl rfl
  | move s r =>
    obtain ⟨entry, hentry, e, he, hsr⟩ := mem_demands_move.mp hy
    obtain ⟨⟨a, ha, hs⟩, b, hb, hr⟩ := mem_moves.mp hsr
    rcases of_declare hon hd with ⟨c, rfl, hp⟩ | ⟨id, items, rfl, hp⟩ | ⟨xs, hp⟩
    · obtain ⟨rfl, ht⟩ := areAlternates_of_ofProvider hp
      rcases concretePairs_dual_eq_error h with hown | ⟨x, rfl | rfl, hx, hk, hf⟩
      · exact .inl hown
      · have hxa := mentioned_of_mem_replace ht hs hk
        exact .inr ⟨c, rfl, x, ⟨entry, hentry, e, he, .inl (hxa ▸ ha)⟩, hx, hk, hf⟩
      · have hxb := mentioned_of_mem_replace ht hr hk
        exact .inr ⟨c, rfl, x, ⟨entry, hentry, e, he, .inr (hxb ▸ hb)⟩, hx, hk, hf⟩
    · obtain ⟨rfl, _⟩ := areAlternates_of_ofProvider hp
      rcases concretePairs_dual_eq_error h with hown | ⟨x, _, hx, hk, _⟩
      · exact .inl hown
      · rw [isPrimary_mapping] at hx
        exact absurd hx (Bool.eq_false_iff.mp hk)
    · obtain ⟨rfl, _⟩ := eq_flat_of_ofStates hp
      exact .inl (isOwn_of_concretePairs_flat h)

/-- A state that a rule mentions and the domain does not know makes the whole rule set fail,
whatever else is in it, where the rule has a move at all. It fails in the library's own terms, unless an
instance of the domain's enumeration is mentioned that is none of its members. -/
theorem expand_unknown {entry : Value} (hon : on.elements?.isSome = true) (hd : declare on = .ok d)
    (hstar : ∀ s ∈ d.states, s.same (.text "*") = false) (hrules : rules.IsRules)
    (hentry : entry ∈ entryValues rules) (he : Entry.of? entry = some e)
    (hx : x ∈ unwrap e.source ∨ x ∈ unwrap e.target) (hw : x.isWildcard = false)
    (hu : d.contains x = false ∨ holds d.states x = false) (hm : d.moves e ≠ []) :
    ∃ f, d.expand rules = .error f ∧ (f.isOwn = true ∨
      ∃ c, on = .enumeration c ∧ ∃ y, rules.Mentions y ∧ y.isInstance c.typeName = true ∧
        d.knows y = false ∧ f = missed y) := by
  have hn : d.NoWildcard := fun s h => Value.isWildcard_of_not_same (hstar s h)
  obtain ⟨s, r, hsr, hor⟩ := exists_move_of_mentioned hx hw hm
  have hmove : .move s r ∈ d.demands rules := mem_demands_move.mpr ⟨entry, hentry, e, he, hsr⟩
  obtain ⟨g, hg⟩ : ∃ g, d.meet (.move s r) = .error g := by
    cases hp : d.concretePairs s r with
    | error g => exact ⟨g, hp⟩
    | ok ps =>
      obtain ⟨hs, hr⟩ := isState_of_concretePairs hp
      have hstate : d.contains x = true ∧ holds d.states x = true := by
        rcases hor with rfl | rfl
        · exact hs
        · exact hr
      rcases hu with hu | hu
      · exact absurd hstate.1 (by simp [hu])
      · exact absurd hstate.2 (by simp [hu])
  -- some demand is refused, so a first one is
  have hsome : ((d.demands rules).findSome? fun y => faultOf (d.meet y)).isSome = true :=
    List.findSome?_isSome_iff.mpr ⟨_, hmove, by rw [hg]; rfl⟩
  obtain ⟨f, hf⟩ := Option.isSome_iff_exists.mp hsome
  obtain ⟨y, hy, hyf⟩ := List.exists_of_findSome?_eq_some hf
  have hexp := expand_eq hn hrules
  rw [hf] at hexp
  exact ⟨f, hexp, meet_eq_error hon hd hy (faultOf_eq_some.mp hyf)⟩

theorem declare_list {xs : List Value} (id : Nat) (hh : xs.all Value.isHashable = true)
    (hx : xs.Pairwise fun x y => x.key ≠ y.key) : declare (.list id xs) = .ok (flat xs) :=
  ofStates_eq_flat (.list id xs) hh hx

/-- A misspelt target beside a member, after a rule that is in order. -/
theorem expand_unknown_target :
    let c : Enumeration := .mk "OrderState" .plain [("CREATED", .int 0), ("PAID", .int 1)] []
    let created : Value := .member c "CREATED" (.int 0)
    let paid : Value := .member c "PAID" (.int 1)
    let d : Domain := .dual (.enumeration c) [(created, .int 0), (paid, .int 1)]
    let rules : Value := .list 0 [.tuple [.text "*", paid],
      .tuple [paid, .tuple [created, .text "doen"]]]
    declare (.enumeration c) = .ok d ∧ d.contains (.text "doen") = false ∧
      ∃ f, d.expand rules = .error f ∧ f.isOwn = true := by
  intro c created paid d rules
  have hd : declare (.enumeration c) = .ok d := rfl
  have hstar : ∀ s ∈ d.states, s.same (.text "*") = false := by decide
  have hrules : rules.IsRules := ⟨rfl, rfl⟩
  have hentry : .tuple [paid, .tuple [created, .text "doen"]] ∈ entryValues rules :=
    List.mem_cons_of_mem _ List.mem_cons_self
  have htarget : .text "doen" ∈ unwrap (.tuple [created, .text "doen"]) :=
    List.mem_cons_of_mem _ List.mem_cons_self
  have hunknown : d.contains (.text "doen") = false := by decide
  have hmembers : ∀ x, rules.Mentions x → x.isInstance c.typeName = true → d.knows x = true := by
    rintro x ⟨entry, hx, e, he, hor⟩ hinstance
    have hentry : entry = .tuple [.text "*", paid] ∨
        entry = .tuple [paid, .tuple [created, .text "doen"]] := by
      simpa using List.mem_cons.mp hx
    rcases hentry with rfl | rfl
    · cases he
      rcases hor with hx | hx
      · rw [List.mem_singleton.mp hx] at hinstance
        cases hinstance
      · rw [List.mem_singleton.mp hx]
        rfl
    · cases he
      rcases hor with hx | hx
      · rw [List.mem_singleton.mp hx]
        rfl
      · have hor : x = created ∨ x = .text "doen" := by simpa [unwrap] using hx
        rcases hor with rfl | rfl
        · rfl
        · cases hinstance
  refine ⟨hd, hunknown, ?_⟩
  obtain ⟨f, hf, hown | ⟨c', hc, x, hx, hinstance, hk, _⟩⟩ := expand_unknown rfl hd hstar hrules
    hentry rfl (.inr htarget) rfl (.inl hunknown) (List.cons_ne_nil _ _)
  · exact ⟨f, hf, hown⟩
  · cases hc
    rw [hmembers x hx hinstance] at hk
    cases hk

/-- A misspelt state that may move nowhere is never looked at. -/
theorem expand_misspelt_terminal :
    let on := Value.list 0 [.text "created", .text "paid"]
    let d := flat [.text "created", .text "paid"]
    let rules := Value.dict 0 [(.text "created", .text "paid"), (.text "doen", .list 0 [])]
    declare on = .ok d ∧ (∀ s ∈ d.states, s.same (.text "*") = false) ∧ rules.IsRules ∧
      (∃ entry ∈ entryValues rules, ∃ e, Entry.of? entry = some e ∧
        .text "doen" ∈ unwrap e.source) ∧
      (Value.text "doen").isWildcard = false ∧ d.contains (.text "doen") = false ∧
      holds d.states (.text "doen") = false ∧ ∃ ex, d.expand rules = .ok ex := by
  intro on d rules
  refine ⟨declare_list 0 rfl (by decide), by decide, ⟨rfl, rfl⟩, ?_, rfl, by decide, by decide,
    ⟨_, rfl⟩⟩
  exact ⟨_, List.mem_cons_of_mem _ List.mem_cons_self, _, rfl, List.mem_singleton_self _⟩

end Domain

end Lifecycle
