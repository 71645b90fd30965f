import Lifecycle.Proofs.Expansion.Forms
import Lifecycle.Proofs.Value.Member

namespace Lifecycle

/-- The values of plain members are there before the members are. -/
def Enumeration.IsGrounded (c : Enumeration) : Prop :=
  c.kind = .plain → ∀ m ∈ c.members, ∀ n, m.2.key ≠ Key.leaf (.member c.name n)

abbrev GroundedEnumeration := {c : Enumeration // c.IsGrounded}

namespace Enumeration

variable {c : Enumeration} {n : String} {v : Value}

theorem key_member_of_plain (h : c.kind = .plain) :
    (Value.member c n v).key = Key.leaf (.member c.name n) := by
  obtain ⟨e, kind, members, aliases⟩ := c
  cases h
  rfl

theorem key_member_of_ne (h : c.kind ≠ .plain) : (Value.member c n v).key = v.key := by
  obtain ⟨e, kind, members, aliases⟩ := c
  cases kind with
  | plain => exact absurd rfl h
  | textual => rfl
  | namedText => rfl
  | numeric => rfl

/-- An enumeration declared with values that are none of its own members is grounded. -/
theorem isGrounded_declare {name : String} {kind : EnumKind} {declared : List (String × Value)}
    (h : declare name kind declared = .ok c)
    (hd : ∀ x ∈ declared, ∀ n, x.2.key ≠ Key.leaf (.member name n)) : c.IsGrounded := by
  simp only [declare, bind_eq_ok, pure_eq_ok] at h
  obtain ⟨_, _, ⟨ms, as⟩, hc, rfl⟩ := h
  intro hk m hm n
  -- a plain member has the value that was declared
  change kind = .plain at hk
  subst hk
  rcases mem_collect hc hm with hm | ⟨x, hx, hv⟩
  · cases hm
  · have hx' : x.2 = m.2 := Except.ok.inj hv
    rw [← hx']
    exact hd x hx n

end Enumeration

theorem isApart_of_differ {t : Table} {p a : Value} (ht : Table.IsKeyed t)
    (ha : Table.lookup? t p = some a)
    (h : ∀ e ∈ t, e.1.key = p.key ∨
      e.1.key ≠ a.key ∧ e.2.key ≠ p.key ∧ e.2.key ≠ a.key) : IsApart t p := by
  intro e he u hu hv
  rcases h e he with hk | ⟨h₁, h₂, h₃⟩
  · exact hk
  · simp only [HasForm, ha, Table.lookup?_of_mem ht he, Option.some.injEq, exists_eq_left'] at hu hv
    rcases hu with hu | hu
    · rcases hv with hv | hv
      · exact hv.symm.trans hu
      · exact absurd (hv.symm.trans hu) h₂
    · rcases hv with hv | hv
      · exact absurd (hv.symm.trans hu) h₁
      · exact absurd (hv.symm.trans hu) h₃

namespace Domain

variable {c : Enumeration} {provider : Provider} {t : Table} {p a : Value}

theorem exists_member
    (h : Table.lookup? (Table.ofList (Provider.enumeration c).alternates) p = some a) :
    ∃ m ∈ c.members, (Value.member c m.1 m.2).key = p.key ∧ m.2 = a := by
  obtain ⟨e, he, hk, rfl⟩ := Table.exists_of_lookup?_ofList h
  obtain ⟨m, hm, rfl⟩ := List.mem_map.mp he
  exact ⟨m, hm, hk, rfl⟩

theorem isApart_of_isGrounded (h : ofProvider (.enumeration c) = .ok (.dual provider t))
    (hg : c.IsGrounded) (hp : p ∈ Table.keys t) : IsApart t p := by
  obtain ⟨hd, ht⟩ := areAlternates_of_ofProvider h
  cases hd
  obtain ⟨f, hf, rfl⟩ := List.mem_map.mp hp
  have hfa := Table.lookup?_of_mem ht.keyed hf
  obtain ⟨m, hm, hmk, hmv⟩ := exists_member hfa
  intro e he u hu hv
  have hea := Table.lookup?_of_mem ht.keyed he
  obtain ⟨m', hm', hmk', hmv'⟩ := exists_member hea
  simp only [HasForm, hfa, hea, Option.some.injEq, exists_eq_left'] at hu hv
  -- a plain member equals no value of one, any other equals its own value
  by_cases hk : c.kind = .plain
  · rw [Enumeration.key_member_of_plain hk] at hmk hmk'
    rcases hu with hu | hu
    · rcases hv with hv | hv
      · exact hv.symm.trans hu
      · refine absurd ?_ (hg hk m' hm' m.1)
        rw [hmv', ← hv, hu, hmk]
    · rcases hv with hv | hv
      · refine absurd ?_ (hg hk m hm m'.1)
        rw [hmv, ← hu, hv, hmk']
      · exact key_eq_of_alternate ht hea hfa (hv.symm.trans hu)
  · rw [Enumeration.key_member_of_ne hk] at hmk hmk'
    rw [← hmv, hmk, or_self] at hu
    rw [← hmv', hmk', or_self] at hv
    exact hv.symm.trans hu

theorem isHashable_of_form {u : Value} (hp : p.isHashable = true) (ha : a.isHashable = true)
    (hu : u ∈ [p, a]) : u.isHashable = true := by
  rcases List.mem_cons.mp hu with rfl | hu
  · exact hp
  · rw [List.mem_singleton.mp hu]
    exact ha

section

variable {on rules q : Value} {e : Expansion}

theorem ofProvider_of_declare
    (hon : (∃ c, on = .enumeration c) ∨ ∃ id items, on = .dict id items)
    (hd : declare on = .ok (.dual provider t)) :
    ofProvider provider = .ok (.dual provider t) ∧
      ∀ c, on = .enumeration c → provider = .enumeration c := by
  rcases hon with ⟨c, rfl⟩ | ⟨id, items, rfl⟩
  · have hp : ofProvider (.enumeration c) = .ok (.dual provider t) := hd
    cases (areAlternates_of_ofProvider hp).1
    exact ⟨hp, fun c' h => by cases h; rfl⟩
  · have hp : ofProvider (.mapping items) = .ok (.dual provider t) := hd
    cases (areAlternates_of_ofProvider hp).1
    exact ⟨hp, fun c h => by cases h⟩

/-- Whichever forms two primaries are given in, the rules that select primaries of these forms
decide. Where the primaries share no form with another, as members of an enumeration never do, that
is the rules that select the two themselves. -/
theorem allowed_forms
    (hon : (∃ c, on = .enumeration c) ∨ ∃ id items, on = .dict id items)
    (hd : declare on = .ok (.dual provider t)) (he : (dual provider t).expand rules = .ok e)
    (hp : p ∈ (dual provider t).states) (hq : q ∈ (dual provider t).states) :
    ∃ a b, alternate t p = .ok a ∧ alternate t q = .ok b ∧
      ∀ u ∈ [p, a], ∀ v ∈ [q, b],
        ((Matcher.ofExpansion e).allowed u v = true ↔
          ∃ s ∈ (dual provider t).states, ∃ r ∈ (dual provider t).states,
            HasForm t s u ∧ HasForm t r v ∧ Selects rules s r) ∧
        ((∃ c : GroundedEnumeration, on = .enumeration c.1) ∨ IsApart t p ∧ IsApart t q →
          ((Matcher.ofExpansion e).allowed u v = true ↔ Selects rules p q)) := by
  obtain ⟨hof, hprov⟩ := ofProvider_of_declare hon hd
  obtain ⟨heq, ht⟩ := areAlternates_of_ofProvider hof
  rw [← (Domain.dual.inj heq).2] at ht
  obtain ⟨m, hm, rfl⟩ := List.mem_map.mp hp
  obtain ⟨n, hn, rfl⟩ := List.mem_map.mp hq
  have hma := Table.lookup?_of_mem ht.keyed hm
  have hnb := Table.lookup?_of_mem ht.keyed hn
  obtain ⟨hmh, hmh'⟩ := ht.hashable m hm
  obtain ⟨hnh, hnh'⟩ := ht.hashable n hn
  refine ⟨m.2, n.2, alternate_eq_ok.mpr ⟨hmh, hma⟩, alternate_eq_ok.mpr ⟨hnh, hnb⟩, ?_⟩
  intro u hu v hv
  have huh := isHashable_of_form hmh hmh' hu
  have hvh := isHashable_of_form hnh hnh' hv
  have hforms := allowed_dual_iff he huh hvh
  refine ⟨hforms, fun happ => ?_⟩
  have hapart : IsApart t m.1 ∧ IsApart t n.1 := by
    rcases happ with ⟨⟨c, hg⟩, hc⟩ | happ
    · rw [hprov c hc] at hof
      exact ⟨isApart_of_isGrounded hof hg hp, isApart_of_isGrounded hof hg hq⟩
    · exact happ
  rw [hforms]
  exact selects_of_isApart hapart.1 hapart.2 hp hq (hasForm_of_mem hma hu) (hasForm_of_mem hnb hv)

/-- Two other primaries share a form, which changes nothing between these. Those of a declared enumeration
share none. -/
theorem allowed_forms_between_apart :
    let items : Table := [(.text "created", .text "c"), (.text "paid", .text "created"),
      (.text "sent", .text "s"), (.text "kept", .text "k")]
    let rules : Value := .dict 0 [(.text "*", .text "sent"),
      (.text "sent", .list 0 [.text "created", .text "kept"])]
    let d : Domain := .dual (.mapping items) items
    declare (.dict 0 items) = .ok d ∧ .text "sent" ∈ d.states ∧ .text "kept" ∈ d.states ∧
      IsApart items (.text "sent") ∧ IsApart items (.text "kept") ∧
      (∃ e, d.expand rules = .ok e ∧
        (Matcher.ofExpansion e).allowed (.text "s") (.text "k") = true) ∧
      ∃ c p q t e, Enumeration.declare "Status" .plain [("CREATED", .int 0), ("PAID", .int 1)] = .ok c ∧
        c.member? "CREATED" = some p ∧ c.member? "PAID" = some q ∧
        declare (.enumeration c) = .ok (.dual (.enumeration c) t) ∧
        (dual (.enumeration c) t).expand (.dict 0 [(p, q)]) = .ok e ∧
        (Matcher.ofExpansion e).allowed (.int 0) q = true := by
  intro items rules d
  have hd : declare (.dict 0 items) = .ok d := rfl
  have hkeyed : Table.IsKeyed items := by unfold Table.IsKeyed; decide
  have hsent : IsApart items (.text "sent") := isApart_of_differ hkeyed rfl (by decide)
  have hkept : IsApart items (.text "kept") := isApart_of_differ hkeyed rfl (by decide)
  have hs : .text "sent" ∈ d.states := by simp [d, items, states, Table.keys]
  have hk : .text "kept" ∈ d.states := by simp [d, items, states, Table.keys]
  obtain ⟨e, he⟩ : ∃ e, d.expand rules = .ok e := ⟨_, rfl⟩
  refine ⟨hd, hs, hk, hsent, hkept, ⟨e, he, ?_⟩, ?_⟩
  · obtain ⟨a, b, ha, hb, hall⟩ := allowed_forms (.inr ⟨0, items, rfl⟩) hd he hs hk
    cases ha
    cases hb
    refine ((hall (.text "s") (by simp) (.text "k") (by simp)).2 (.inr ⟨hsent, hkept⟩)).mpr ?_
    exact ⟨.tuple [.text "sent", .list 0 [.text "created", .text "kept"]],
      by simp [rules, entryValues], _, rfl, ⟨.text "sent", by simp [unwrap], .inr rfl⟩,
      .text "kept", by simp [unwrap], .inr rfl⟩
  · let c : Enumeration := .mk "Status" .plain [("CREATED", .int 0), ("PAID", .int 1)] []
    let p : Value := .member c "CREATED" (.int 0)
    let q : Value := .member c "PAID" (.int 1)
    have hc : Enumeration.declare "Status" .plain [("CREATED", .int 0), ("PAID", .int 1)] = .ok c :=
      rfl
    have hgrounded : c.IsGrounded :=
      Enumeration.isGrounded_declare hc (by simp [Value.key, Key.int, Key.leaf])
    have hd : declare (.enumeration c) = .ok (.dual (.enumeration c) [(p, .int 0), (q, .int 1)]) := rfl
    obtain ⟨e, he⟩ : ∃ e, (dual (.enumeration c) [(p, .int 0), (q, .int 1)]).expand
        (.dict 0 [(p, q)]) = .ok e := ⟨_, rfl⟩
    refine ⟨c, p, q, _, e, hc, rfl, rfl, hd, he, ?_⟩
    obtain ⟨a, b, ha, hb, hall⟩ := allowed_forms (.inl ⟨c, rfl⟩) hd he
      (List.mem_cons_self : p ∈ [p, q]) (List.mem_cons_of_mem p List.mem_cons_self)
    cases ha
    cases hb
    refine ((hall (.int 0) (by simp) q (by simp)).2 (.inl ⟨⟨c, hgrounded⟩, rfl⟩)).mpr ?_
    exact ⟨.tuple [p, q], List.mem_cons_self, _, rfl, ⟨p, List.mem_cons_self, .inr rfl⟩,
      q, List.mem_cons_self, .inr rfl⟩

/-- An alternate that is another primary too moves as that one. -/
theorem allowed_forms_differ :
    let items : Table := [(.text "created", .text "c"), (.text "paid", .text "created")]
    let rules : Value := .dict 0 [(.text "created", .text "created")]
    let d : Domain := .dual (.mapping items) items
    declare (.dict 0 items) = .ok d ∧ .text "paid" ∈ d.states ∧ .text "created" ∈ d.states ∧
      alternate items (.text "paid") = .ok (.text "created") ∧
      ∃ e, d.expand rules = .ok e ∧
        (Matcher.ofExpansion e).allowed (.text "paid") (.text "created") = false ∧
        (Matcher.ofExpansion e).allowed (.text "created") (.text "created") = true := by
  intro items rules d
  refine ⟨rfl, by simp [d, items, states, Table.keys], by simp [d, items, states, Table.keys], rfl,
    _, rfl, ?_, ?_⟩
  · simp only [Matcher.allowed, Matcher.ofExpansion, Matcher.pairs, holds_distinct]
    decide
  · simp only [Matcher.allowed, Matcher.ofExpansion, Matcher.pairs, holds_distinct]
    decide

end

end Domain

end Lifecycle
