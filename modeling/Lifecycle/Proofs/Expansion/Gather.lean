import Lifecycle.Proofs.Collection
import Lifecycle.Proofs.Value.Equality

namespace Lifecycle

/-- What the elements of a list give, one after the other, up to the first that fails. -/
def gather {α β : Type} (f : α → Except Fault (List β)) : List α → Except Fault (List β)
  | [] => .ok []
  | x :: xs => do
    let here ← f x
    let there ← gather f xs
    return here ++ there

/-- The fault of an outcome, if it is one. -/
def faultOf {α : Type} : Except Fault α → Option Fault
  | .ok _ => none
  | .error f => some f

/-- An outcome follows another: under a condition they are equal, and its success is the other's. -/
structure Follows {α : Type} (p : Prop) (x y : Except Fault α) : Prop where
  eq : p → x = y
  ok : ∀ a, x = .ok a → y = .ok a

theorem Follows.refl {α : Type} (p : Prop) (x : Except Fault α) : Follows p x x :=
  ⟨fun _ => rfl, fun _ h => h⟩

theorem Follows.trans {α : Type} {p : Prop} {x y z : Except Fault α} (h : Follows p x y)
    (h' : Follows p y z) : Follows p x z :=
  ⟨fun hp => (h.eq hp).trans (h'.eq hp), fun a ha => h'.ok a (h.ok a ha)⟩

section

variable {α β γ : Type} {f : α → Except Fault (List β)} {p : Prop}

theorem gather_cons_eq_ok {x : α} {xs : List α} {bs : List β} :
    gather f (x :: xs) = .ok bs ↔
      ∃ here there, f x = .ok here ∧ gather f xs = .ok there ∧ bs = here ++ there := by
  simp only [gather, bind_eq_ok, pure_eq_ok]
  constructor
  · rintro ⟨here, hx, there, hxs, rfl⟩
    exact ⟨here, there, hx, hxs, rfl⟩
  · rintro ⟨here, there, hx, hxs, rfl⟩
    exact ⟨here, hx, there, hxs, rfl⟩

theorem gather_append (xs ys : List α) :
    gather f (xs ++ ys) = do
      let here ← gather f xs
      let there ← gather f ys
      return here ++ there := by
  induction xs with
  | nil => cases h : gather f ys <;> simp [gather, h]
  | cons x xs ih =>
    rw [List.cons_append, gather, gather, ih]
    cases f x with
    | error e => rfl
    | ok here =>
      cases gather f xs with
      | error e => rfl
      | ok there =>
        cases gather f ys with
        | error e => rfl
        | ok rest => simp

theorem gather_flatMap (f : β → Except Fault (List γ)) (g : α → List β) (xs : List α) :
    gather f (xs.flatMap g) = gather (fun x => gather f (g x)) xs := by
  induction xs with
  | nil => rfl
  | cons x xs ih => rw [List.flatMap_cons, gather_append, gather, ih]

theorem gather_map (f : β → Except Fault (List γ)) (g : α → β) (xs : List α) :
    gather f (xs.map g) = gather (fun x => f (g x)) xs := by
  induction xs with
  | nil => rfl
  | cons x xs ih => rw [List.map_cons, gather, gather, ih]

theorem gather_singleton (x : α) : gather f [x] = f x := by
  cases h : f x <;> simp [gather, h]

theorem gather_follows {g : α → Except Fault (List β)} {xs : List α}
    (h : ∀ x ∈ xs, Follows p (f x) (g x)) : Follows p (gather f xs) (gather g xs) := by
  induction xs with
  | nil => exact .refl p _
  | cons x xs ih =>
    have hx := h x List.mem_cons_self
    have hxs := ih fun y hy => h y (List.mem_cons_of_mem _ hy)
    constructor
    · intro hp
      rw [gather, gather, hx.eq hp, hxs.eq hp]
    · intro bs hbs
      obtain ⟨here, there, h₁, h₂, rfl⟩ := gather_cons_eq_ok.mp hbs
      exact gather_cons_eq_ok.mpr ⟨here, there, hx.ok _ h₁, hxs.ok _ h₂, rfl⟩

/-- The first fault decides; without one, the results are put together in order. -/
theorem gather_eq (xs : List α) :
    gather f xs = match xs.findSome? fun x => faultOf (f x) with
      | some e => .error e
      | none => .ok (xs.flatMap fun x => (f x).toOption.getD []) := by
  induction xs with
  | nil => rfl
  | cons x xs ih =>
    rw [gather, List.findSome?_cons, ih]
    cases hx : f x with
    | error e => rfl
    | ok here =>
      rw [ok_bind, faultOf]
      cases xs.findSome? fun x => faultOf (f x) with
      | some e => rfl
      | none => simp [hx, Except.toOption]

theorem exists_of_gather_eq_error {xs : List α} {e : Fault} (h : gather f xs = .error e) :
    ∃ x ∈ xs, f x = .error e := by
  induction xs with
  | nil => cases h
  | cons x xs ih =>
    rw [gather, bind_eq_error] at h
    rcases h with hx | ⟨here, _, h⟩
    · exact ⟨x, List.mem_cons_self, hx⟩
    · rcases bind_eq_error.mp h with hxs | ⟨there, _, h⟩
      · obtain ⟨y, hy, hye⟩ := ih hxs
        exact ⟨y, List.mem_cons_of_mem _ hy, hye⟩
      · cases h

theorem mem_of_gather_eq_ok {xs : List α} {bs : List β} (h : gather f xs = .ok bs) :
    (∀ x ∈ xs, ∃ here, f x = .ok here) ∧
      ∀ b, b ∈ bs ↔ ∃ x ∈ xs, ∃ here, f x = .ok here ∧ b ∈ here := by
  induction xs generalizing bs with
  | nil =>
    cases h
    simp
  | cons x xs ih =>
    obtain ⟨here, there, hx, hxs, rfl⟩ := gather_cons_eq_ok.mp h
    obtain ⟨hall, hmem⟩ := ih hxs
    constructor
    · intro y hy
      rcases List.mem_cons.mp hy with rfl | hy
      · exact ⟨here, hx⟩
      · exact hall y hy
    · intro b
      rw [List.mem_append, hmem]
      simp [hx]

end

end Lifecycle
