import Lifecycle.Proofs.Expansion.Flat
import Mathlib.Logic.ExistsUnique

namespace Lifecycle

/-- A position before which there is no value equal to the one there. -/
def IsFirstAt (xs : List Value) (i : Nat) : Prop :=
  ∃ x, xs[i]? = some x ∧ ∀ j < i, ∀ y, xs[j]? = some y → y.same x = false

/-- Such a position, where some keys were seen before the list began. -/
def IsNewAt (seen : Std.HashSet Key) (xs : List Value) (i : Nat) : Prop :=
  ∃ x, xs[i]? = some x ∧ x.key ∉ seen ∧ ∀ j < i, ∀ y, xs[j]? = some y → y.key ≠ x.key

section

variable {seen : Std.HashSet Key} {x : Value} {xs : List Value} {i : Nat}

theorem isNewAt_zero : IsNewAt seen (x :: xs) 0 ↔ x.key ∉ seen := by
  simp [IsNewAt]

theorem isNewAt_succ : IsNewAt seen (x :: xs) (i + 1) ↔ IsNewAt (seen.insert x.key) xs i := by
  unfold IsNewAt
  constructor
  · rintro ⟨z, hz, hs, hne⟩
    refine ⟨z, hz, ?_, fun j hj y hy => hne (j + 1) (by omega) y hy⟩
    rw [Std.HashSet.mem_insert]
    rintro (he | hm)
    · exact hne 0 (by omega) x rfl (eq_of_beq he)
    · exact hs hm
  · rintro ⟨z, hz, hs, hne⟩
    rw [Std.HashSet.mem_insert, not_or] at hs
    refine ⟨z, hz, hs.2, ?_⟩
    intro j hj y hy hk
    cases j with
    | zero =>
      obtain rfl := Option.some.inj hy
      exact hs.1 (beq_iff_eq.mpr hk)
    | succ j => exact hne j (by omega) y hy hk

theorem isNewAt_insert (h : x.key ∈ seen) :
    IsNewAt (seen.insert x.key) xs i ↔ IsNewAt seen xs i := by
  have hmem : ∀ k, k ∈ seen.insert x.key ↔ k ∈ seen := by
    intro k
    rw [Std.HashSet.mem_insert]
    constructor
    · rintro (he | hm)
      · exact eq_of_beq he ▸ h
      · exact hm
    · exact .inr
  simp only [IsNewAt, hmem]

/-- The values that are kept are those at the new positions, in order. -/
theorem exists_positions (seen : Std.HashSet Key) (xs : List Value) :
    ∃ places : List Nat, places.Pairwise (· < ·) ∧ (∀ i, i ∈ places ↔ IsNewAt seen xs i) ∧
      places.map (xs[·]?) = (distinctFrom seen xs).map some := by
  -- the new positions of the rest lie one further on, and the first is new if its key is not seen yet
  fun_induction distinctFrom seen xs with
  | case1 => exact ⟨[], .nil, by simp [IsNewAt], rfl⟩
  | case2 seen x xs hx ih =>
    obtain ⟨places, horder, hmem, hmap⟩ := ih
    have hseen : x.key ∈ seen := Std.HashSet.mem_iff_contains.mpr hx
    refine ⟨places.map (· + 1), ?_, ?_, ?_⟩
    · exact horder.map _ fun a b hab => by omega
    · intro i
      cases i with
      | zero => simp [isNewAt_zero, hseen]
      | succ i => simp [isNewAt_succ, isNewAt_insert hseen, hmem]
    · rw [← hmap, List.map_map]
      rfl
  | case3 seen x xs hx ih =>
    obtain ⟨places, horder, hmem, hmap⟩ := ih
    have hnew : x.key ∉ seen := by simpa using hx
    refine ⟨0 :: places.map (· + 1), ?_, ?_, ?_⟩
    · refine .cons (by simp) ?_
      exact horder.map _ fun a b hab => by omega
    · intro i
      cases i with
      | zero => simp [isNewAt_zero, hnew]
      | succ i => simp [isNewAt_succ, hmem]
    · rw [List.map_cons, List.map_cons, ← hmap, List.map_map]
      rfl

theorem isNewAt_empty : IsNewAt ∅ xs i ↔ IsFirstAt xs i := by
  simp [IsNewAt, IsFirstAt, Value.same]

end

namespace Domain

/-- A collection's states are kept as they are first declared, in that order, and no other that equals
one of them is. Declared anew, the states that are kept are the same domain. -/
theorem ofStates_stable (on : Value) (xs : List Value) (hh : ∀ x ∈ xs, x.isHashable = true) :
    ∃ d, ofStates on xs = .ok d ∧
      (d.states.Pairwise fun s t => s.same t = false) ∧
      (∀ x ∈ xs, ∃! s, s ∈ d.states ∧ s.same x = true) ∧
      (∃ places : List Nat, places.Pairwise (· < ·) ∧ (∀ i, i ∈ places ↔ IsFirstAt xs i) ∧
        places.map (xs[·]?) = d.states.map some) ∧
      ∀ on', ∃ d', ofStates on' d.states = .ok d' ∧ d'.states = d.states ∧
        ∀ v, d'.contains v = d.contains v := by
  have hd : ofStates on xs = .ok (flat (distinct xs)) := if_pos (List.all_eq_true.mpr hh)
  have hpair := pairwise_distinct xs
  refine ⟨_, hd, ?_, ?_, ?_, ?_⟩
  · exact hpair.imp fun hne => by simpa [Value.same] using hne
  · intro x hx
    obtain ⟨s, hs, hk⟩ := exists_mem_distinct hx
    refine ⟨s, ⟨hs, Value.same_iff.mpr hk⟩, ?_⟩
    rintro t ⟨ht, htk⟩
    exact eq_of_pairwise_ne hpair ht hs ((Value.same_iff.mp htk).trans hk.symm)
  · obtain ⟨places, horder, hmem, hmap⟩ := exists_positions ∅ xs
    exact ⟨places, horder, fun i => (hmem i).trans isNewAt_empty, hmap⟩
  · intro on'
    have hkept : (distinct xs).all Value.isHashable = true :=
      List.all_eq_true.mpr fun s hs => hh s (mem_of_mem_distinct hs)
    exact ⟨_, ofStates_eq_flat on' hkept hpair, rfl, fun _ => rfl⟩

/-- Of a truth value and the number that it equals, and of a text and a member of that text, the first is
kept. -/
theorem ofStates_stable_forms :
    let c : Enumeration := .mk "Status" .textual [("A", .text "a")] []
    let xs : List Value := [.bool true, .text "a", .int 1, .int 2, .member c "A" (.text "a")]
    (∀ x ∈ xs, x.isHashable = true) ∧
      ∃ d, ofStates .none xs = .ok d ∧ d.states = [.bool true, .text "a", .int 2] ∧
        (d.states.Pairwise fun s t => s.same t = false) ∧
        ∃! s, s ∈ d.states ∧ s.same (.int 1) = true := by
  intro c xs
  have hh : ∀ x ∈ xs, x.isHashable = true := by decide
  obtain ⟨d, hd, hpair, hunique, _⟩ := ofStates_stable .none xs hh
  have hstates : d.states = [.bool true, .text "a", .int 2] := by
    cases hd
    simp +decide [states, distinct, distinctFrom, xs, c, Value.key]
  exact ⟨hh, d, hd, hstates, hpair, hunique (.int 1) (by simp [xs])⟩

end Domain

end Lifecycle
