import Lifecycle.Proofs.Expansion.Redeclared
import Lifecycle.Proofs.Steady
import Lifecycle.Proofs.Value.KeyOrder

namespace Lifecycle

/-- The world after a domain has been declared in it. -/
def World.declared (w : World) (on : Value) : World := ((Act.declare on).run.run w).2

theorem perm_keys_of_holds {xs ys : List Value} (hx : xs.Pairwise fun x y => x.key ≠ y.key)
    (hy : ys.Pairwise fun x y => x.key ≠ y.key) (h : ∀ v, holds xs v = holds ys v) :
    (xs.map Value.key).Perm (ys.map Value.key) := by
  have hone : ∀ {xs ys : List Value}, (∀ v, holds xs v = holds ys v) →
      ∀ k ∈ xs.map Value.key, k ∈ ys.map Value.key := by
    intro xs ys h k hk
    obtain ⟨x, hx, rfl⟩ := List.mem_map.mp hk
    obtain ⟨y, hy, hyx⟩ := holds_iff.mp (h x ▸ holds_iff.mpr ⟨x, hx, rfl⟩)
    exact List.mem_map.mpr ⟨y, hy, hyx⟩
  rw [List.perm_ext_iff_of_nodup (List.pairwise_map.mpr hx) (List.pairwise_map.mpr hy)]
  exact fun k => ⟨hone h k, hone (fun v => (h v).symm) k⟩

namespace Matcher

variable {m m' : Matcher}

theorem key_eq_of_holds (hm : m.pairs.Pairwise fun x y => x.key ≠ y.key)
    (hm' : m'.pairs.Pairwise fun x y => x.key ≠ y.key)
    (h : ∀ v, holds m.pairs v = holds m'.pairs v) :
    (Value.matcher m).key = (Value.matcher m').key := by
  have hp := perm_keys_of_holds hm hm' h
  rw [← Keys.toList_keysOf, ← Keys.toList_keysOf] at hp
  have hsort : (keysOf m.pairs).sort = (keysOf m'.pairs).sort := Keys.sort_eq_of_perm hp
  cases m
  cases m'
  exact congrArg (Key.shape .matcher) hsort

theorem size_eq_of_holds (hm : m.pairs.Pairwise fun x y => x.key ≠ y.key)
    (hm' : m'.pairs.Pairwise fun x y => x.key ≠ y.key)
    (h : ∀ v, holds m.pairs v = holds m'.pairs v) : m.size = m'.size := by
  simpa [size] using (perm_keys_of_holds hm hm' h).length_eq

end Matcher

namespace Domain

variable {stands : Value → Value → Prop} {d d' : Domain} {rules : Value} {e : Expansion}

theorem pairwise_of_expand (h : d.expand rules = .ok e) :
    e.pairs.Pairwise fun x y => x.key ≠ y.key := by
  obtain ⟨_, ps, _, _, hpairs⟩ := met_of_expand h
  rw [hpairs]
  exact pairwise_distinct _

end Domain

namespace Act

theorem declare_run (on : Value) (w : World) :
    (declare on).run.run w = (Domain.declare (w.current on), w.declared on) := by
  refine Prod.ext ?_ rfl
  obtain ⟨w', hleave⟩ :=
    leave_run (w.current on) (fun xs => (xs.dropWhile Value.isHashable).drop 1) w
  rw [declare, run_bind, current_run]
  simp only [run_bind, hleave]
  rfl

theorem expand_run (on rules : Value) (w : World) :
    ((expand on rules).run.run w).1 = (do
      let d ← Domain.declare (w.current on)
      d.expand ((w.declared on).current rules)) := by
  rw [expand, run_bind, declare_run]
  cases Domain.declare (w.current on) with
  | error f => rfl
  | ok d =>
    obtain ⟨w', hleave⟩ :=
      leave_run ((w.declared on).current rules) d.undrawn (w.declared on)
    dsimp only
    rw [run_bind, current_run, ok_bind]
    simp only [run_bind, hleave]
    cases hx : d.expand ((w.declared on).current rules) <;> simp only [ofExcept] <;> rfl

/-- What a matcher comes to, from what its declaration and its rules are when they are looked at. -/
theorem compile_run (on rules : Value) (w : World) :
    ((compile on rules).run.run w).1 = (do
      let d ← Domain.declare (w.current on)
      let e ← d.expand ((w.declared on).current rules)
      return Matcher.ofExpansion e) := by
  rw [← bind_assoc, ← expand_run, compile, run_bind]
  rcases (expand on rules).run.run w with ⟨f | e, w'⟩ <;> rfl

variable {on on' rules rules' : Value} {w w' : World}

theorem compiles_of_reordered (hon : ReorderedDeclaration (w.current on) (w'.current on'))
    (hrules : ReorderedRules ((w.declared on).current rules) ((w'.declared on').current rules'))
    {m : Matcher} (h : ((compile on rules).run.run w).1 = .ok m) :
    ∃ m', ((compile on' rules').run.run w').1 = .ok m' ∧
      (∀ v, holds m'.pairs v = true → holds m.pairs v = true) ∧
      m.pairs.Pairwise fun x y => x.key ≠ y.key := by
  simp only [compile_run, bind_eq_ok, pure_eq_ok] at h ⊢
  obtain ⟨d, hd, e, he, rfl⟩ := h
  obtain ⟨stands, d', hd', hcov⟩ := Domain.declare_covers hon hd
  obtain ⟨e', he', hall⟩ := Domain.expand_of_covers hcov hrules he
  exact ⟨_, ⟨d', hd', e', he', rfl⟩, hall, Domain.pairwise_of_expand he⟩

/-- The order of a declaration does not matter. From the states or the entries of a domain, from rules
and from the states on their sides in any other order there comes a matcher when there comes one from
the first order. The two are equal, are hashed alike, have as many pairs and judge every move alike. -/
theorem compile_reordered (hon : ReorderedDeclaration (w.current on) (w'.current on'))
    (hrules : ReorderedRules ((w.declared on).current rules) ((w'.declared on').current rules')) :
    match ((compile on rules).run.run w).1, ((compile on' rules').run.run w').1 with
    | .ok m, .ok m' => (Value.matcher m).same (.matcher m') = true ∧
        hash (Value.matcher m).key = hash (Value.matcher m').key ∧ m.size = m'.size ∧
        ∀ u v, m.allowed u v = m'.allowed u v
    | .error _, .error _ => True
    | _, _ => False := by
  have hthere := fun m => compiles_of_reordered hon hrules (m := m)
  have hback := fun m' => compiles_of_reordered hon.symm hrules.symm (m := m')
  cases h : ((compile on rules).run.run w).1 with
  | error f =>
    cases h' : ((compile on' rules').run.run w').1 with
    | error f' => trivial
    | ok m' =>
      obtain ⟨m, hm, _⟩ := hback m' h'
      rw [h] at hm
      cases hm
  | ok m =>
    obtain ⟨m', h', hsub, hpair⟩ := hthere m h
    obtain ⟨_, hm, hsub', hpair'⟩ := hback m' h'
    rw [h] at hm
    cases hm
    rw [h']
    have hholds : ∀ v, holds m.pairs v = holds m'.pairs v :=
      fun v => Bool.eq_iff_iff.mpr ⟨hsub' v, hsub v⟩
    have hkey := Matcher.key_eq_of_holds hpair hpair' hholds
    refine ⟨Value.same_iff.mpr hkey, congrArg hash hkey,
      Matcher.size_eq_of_holds hpair hpair' hholds, ?_⟩
    intro u v
    rw [Matcher.allowed, Matcher.allowed, hholds]

/-- One and true are the same state, whichever is declared first, and so are a member and its text. -/
theorem compile_reordered_ones :
    let paid : Value := .member (.mk "Status" .textual [("PAID", .text "paid")] []) "PAID"
      (.text "paid")
    let on : Value := .list 0 [.int 1, paid, .bool true]
    let on' : Value := .tuple [.bool true, paid, .int 1]
    let rules : Value := .list 0 [.tuple [.text "*", .list 0 [.int 1, .text "paid"]],
      .tuple [.bool true, .text "paid"]]
    let rules' : Value := .list 0 [.tuple [.bool true, .text "paid"],
      .tuple [.text "*", .list 0 [.text "paid", .int 1]]]
    ReorderedDeclaration on on' ∧ ReorderedRules rules rules' ∧
      ∃ m m', ((compile on rules).run.run {}).1 = .ok m ∧
        ((compile on' rules').run.run {}).1 = .ok m' ∧
        (Value.matcher m).same (.matcher m') = true ∧ m.size = m'.size := by
  intro paid on on' rules rules'
  have hdeclared : Enumeration.declare "Status" .textual [("PAID", .text "paid")] =
      .ok (.mk "Status" .textual [("PAID", .text "paid")] []) := rfl
  have hpaid : paid.IsMade := Enumeration.isMade_of_declare hdeclared List.mem_cons_self
  let states : List MadeValue := [⟨.int 1, trivial⟩, ⟨paid, hpaid⟩, ⟨.bool true, trivial⟩]
  have hon : ReorderedDeclaration on on' :=
    @ReorderedDeclaration.states on on' states states.reverse rfl rfl (List.reverse_perm _).symm
  have hrules : ReorderedRules rules rules' := by
    refine ⟨⟨rfl, rfl⟩, ⟨rfl, rfl⟩, _, .swap _ _ _, .cons ?_ (.cons ?_ .nil)⟩
    · exact .some ⟨.refl _, .refl _⟩
    · exact .some ⟨.refl _, .swap _ _ _⟩
  have hdistinct : distinct [.int 1, paid, .bool true] = [.int 1, paid] := by
    simp [paid, distinct, distinctFrom, Value.key, Key.bool, Key.int, Key.leaf]
  have hd : Domain.declare on = .ok (.flat [.int 1, paid]) := by
    rw [← hdistinct]
    rfl
  obtain ⟨m, hm⟩ : ∃ m, ((compile on rules).run.run {}).1 = .ok m := by
    rw [compile_run, show World.current {} on = on from rfl, hd]
    exact ⟨_, rfl⟩
  have h := @compile_reordered on on' rules rules' {} {} hon hrules
  rw [hm] at h
  cases hm' : ((compile on' rules').run.run {}).1 with
  | error f =>
    rw [hm'] at h
    exact h.elim
  | ok m' =>
    rw [hm'] at h
    exact ⟨hon, hrules, m, m', hm, rfl, h.1, h.2.2.1⟩

end Act

end Lifecycle
