import Lifecycle.Collection
import Lifecycle.Proofs.Success

namespace Lifecycle

theorem needHashable_eq_ok {v : Value} : v.needHashable = .ok () ↔ v.isHashable = true := by
  unfold Value.needHashable Value.isHashable
  cases v.mutablePart? <;> simp

theorem needAllHashable_eq_ok {xs : List Value} :
    needAllHashable xs = .ok () ↔ ∀ x ∈ xs, x.isHashable = true := by
  simp only [needAllHashable, forM_eq_ok, needHashable_eq_ok]

theorem exists_of_needAllHashable_eq_error {xs : List Value} {f : Fault}
    (h : needAllHashable xs = .error f) : ∃ x ∈ xs, x.needHashable = .error f :=
  exists_of_forM_eq_error h

theorem needHashable_eq_error {v : Value} {f : Fault} :
    v.needHashable = .error f ↔ ∃ t, v.mutablePart? = some t ∧ f = Fault.unhashable t := by
  unfold Value.needHashable
  cases v.mutablePart? with
  | none => simp
  | some t => simp [eq_comm]

theorem holds_iff {xs : List Value} {v : Value} :
    holds xs v = true ↔ ∃ x ∈ xs, x.key = v.key := by
  simp [holds]

theorem holds_congr {xs : List Value} {v w : Value} (h : v.key = w.key) :
    holds xs v = holds xs w := by
  simp only [holds, h]

theorem holds_perm {xs ys : List Value} (h : xs.Perm ys) (v : Value) : holds xs v = holds ys v :=
  h.any_eq

theorem eq_of_pairwise_ne {α β : Type} {key : α → β} {xs : List α}
    (h : xs.Pairwise fun x y => key x ≠ key y) {x y : α} (hx : x ∈ xs) (hy : y ∈ xs)
    (hk : key x = key y) : x = y := by
  refine List.Pairwise.forall_of_forall_of_flip
    (R := fun x y => key x = key y → x = y) (fun _ _ _ => rfl) ?_ ?_ hx hy hk
  · exact h.imp fun hne hxy => absurd hxy hne
  · exact h.imp fun hne hyx => absurd hyx.symm hne

section Distinct

variable {seen : Std.HashSet Key} {xs : List Value}

theorem mem_of_mem_distinctFrom {x : Value} (h : x ∈ distinctFrom seen xs) :
    x ∈ xs ∧ x.key ∉ seen := by
  fun_induction distinctFrom seen xs with
  | case1 => simp at h
  | case2 seen y ys hy ih =>
    obtain ⟨hx, hs⟩ := ih h
    exact ⟨List.mem_cons_of_mem _ hx, hs⟩
  | case3 seen y ys hy ih =>
    rcases List.mem_cons.mp h with rfl | h
    · exact ⟨List.mem_cons_self, by simpa using hy⟩
    · obtain ⟨hx, hs⟩ := ih h
      exact ⟨List.mem_cons_of_mem _ hx, fun hm => hs (Std.HashSet.mem_insert.mpr (.inr hm))⟩

theorem exists_mem_distinctFrom {x : Value} (h : x ∈ xs) (hs : x.key ∉ seen) :
    ∃ y ∈ distinctFrom seen xs, y.key = x.key := by
  fun_induction distinctFrom seen xs with
  | case1 => simp at h
  | case2 seen y ys hy ih =>
    rcases List.mem_cons.mp h with rfl | h
    · exact absurd (Std.HashSet.mem_iff_contains.mpr hy) hs
    · exact ih h hs
  | case3 seen y ys hy ih =>
    by_cases hxy : x.key = y.key
    · exact ⟨y, List.mem_cons_self, hxy.symm⟩
    · have hx : x ∈ ys := by
        rcases List.mem_cons.mp h with rfl | h
        · exact absurd rfl hxy
        · exact h
      have hn : x.key ∉ seen.insert y.key := by
        rw [Std.HashSet.mem_insert]
        rintro (he | hm)
        · exact hxy (by simpa using Eq.symm (eq_of_beq he))
        · exact hs hm
      obtain ⟨z, hz, hk⟩ := ih hx hn
      exact ⟨z, List.mem_cons_of_mem _ hz, hk⟩

theorem pairwise_distinctFrom : (distinctFrom seen xs).Pairwise fun x y => x.key ≠ y.key := by
  fun_induction distinctFrom seen xs with
  | case1 => exact .nil
  | case2 seen y ys hy ih => exact ih
  | case3 seen y ys hy ih =>
    refine .cons ?_ ih
    intro x hx he
    have hn := (mem_of_mem_distinctFrom hx).2
    exact hn (Std.HashSet.mem_insert.mpr (.inl (by simp [he])))

theorem distinctFrom_eq_self (h : xs.Pairwise fun x y => x.key ≠ y.key)
    (hs : ∀ x ∈ xs, x.key ∉ seen) : distinctFrom seen xs = xs := by
  fun_induction distinctFrom seen xs with
  | case1 => rfl
  | case2 seen y ys hy ih =>
    exact absurd (Std.HashSet.mem_iff_contains.mpr hy) (hs y List.mem_cons_self)
  | case3 seen y ys hy ih =>
    obtain ⟨hyx, hys⟩ := List.pairwise_cons.mp h
    rw [ih hys]
    intro x hx hm
    rcases Std.HashSet.mem_insert.mp hm with he | hm
    · exact hyx x hx (eq_of_beq he)
    · exact hs x (List.mem_cons_of_mem _ hx) hm

end Distinct

theorem mem_of_mem_distinct {x : Value} {xs : List Value} (h : x ∈ distinct xs) : x ∈ xs :=
  (mem_of_mem_distinctFrom h).1

theorem exists_mem_distinct {x : Value} {xs : List Value} (h : x ∈ xs) :
    ∃ y ∈ distinct xs, y.key = x.key :=
  exists_mem_distinctFrom h Std.HashSet.not_mem_empty

theorem pairwise_distinct (xs : List Value) :
    (distinct xs).Pairwise fun x y => x.key ≠ y.key := pairwise_distinctFrom

theorem distinct_eq_self {xs : List Value} (h : xs.Pairwise fun x y => x.key ≠ y.key) :
    distinct xs = xs :=
  distinctFrom_eq_self h fun _ _ => Std.HashSet.not_mem_empty

theorem holds_distinct (xs : List Value) (v : Value) : holds (distinct xs) v = holds xs v := by
  rw [Bool.eq_iff_iff, holds_iff, holds_iff]
  constructor
  · rintro ⟨x, hx, hk⟩
    exact ⟨x, mem_of_mem_distinct hx, hk⟩
  · rintro ⟨x, hx, hk⟩
    obtain ⟨y, hy, hyx⟩ := exists_mem_distinct hx
    exact ⟨y, hy, hyx.trans hk⟩

end Lifecycle
