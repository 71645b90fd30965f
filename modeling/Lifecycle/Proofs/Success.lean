import Lifecycle.Tracker

namespace Lifecycle

section

variable {α β : Type}

@[simp] theorem pure_eq (a : α) : (pure a : Except Fault α) = .ok a := rfl

@[simp] theorem throw_eq (e : Fault) : (throw e : Except Fault α) = .error e := rfl

@[simp] theorem ok_bind (a : α) (f : α → Except Fault β) : (Except.ok a >>= f) = f a := rfl

@[simp] theorem error_bind (e : Fault) (f : α → Except Fault β) :
    ((Except.error e : Except Fault α) >>= f) = .error e := rfl

theorem bind_eq_ok {x : Except Fault α} {f : α → Except Fault β} {b : β} :
    x >>= f = .ok b ↔ ∃ a, x = .ok a ∧ f a = .ok b := by
  cases x with
  | error e => simp
  | ok a => simp

theorem bind_eq_error {x : Except Fault α} {f : α → Except Fault β} {e : Fault} :
    x >>= f = .error e ↔ x = .error e ∨ ∃ a, x = .ok a ∧ f a = .error e := by
  cases x with
  | error g => simp
  | ok a => simp

theorem pure_eq_ok {a b : α} : (pure a : Except Fault α) = .ok b ↔ a = b := by
  rw [pure_eq, Except.ok.injEq]

theorem throw_ne_ok {e : Fault} {a : α} : (throw e : Except Fault α) ≠ .ok a := by
  rw [throw_eq]
  intro h
  cases h

theorem forM_eq_ok {f : α → Except Fault Unit} {xs : List α} :
    xs.forM f = .ok () ↔ ∀ x ∈ xs, f x = .ok () := by
  induction xs with
  | nil => simp
  | cons x xs ih =>
    have hc : (x :: xs).forM f = (f x >>= fun _ => xs.forM f) := rfl
    rw [hc, bind_eq_ok, List.forall_mem_cons, ← ih]
    constructor
    · rintro ⟨_, hx, hxs⟩
      exact ⟨hx, hxs⟩
    · rintro ⟨hx, hxs⟩
      exact ⟨(), hx, hxs⟩

theorem exists_of_forM_eq_error {f : α → Except Fault Unit} {xs : List α} {e : Fault}
    (h : xs.forM f = .error e) : ∃ x ∈ xs, f x = .error e := by
  induction xs with
  | nil => cases h
  | cons x xs ih =>
    have hc : (x :: xs).forM f = (f x >>= fun _ => xs.forM f) := rfl
    rw [hc, bind_eq_error] at h
    rcases h with hx | ⟨_, _, hxs⟩
    · exact ⟨x, List.mem_cons_self, hx⟩
    · obtain ⟨y, hy, hye⟩ := ih hxs
      exact ⟨y, List.mem_cons_of_mem _ hy, hye⟩

theorem mapM_cons_eq_ok {f : α → Except Fault β} {x : α} {xs : List α} {bs : List β} :
    (x :: xs).mapM f = .ok bs ↔ ∃ b bs', f x = .ok b ∧ xs.mapM f = .ok bs' ∧ bs = b :: bs' := by
  simp only [List.mapM_cons, bind_eq_ok, pure_eq_ok]
  constructor
  · rintro ⟨b, hb, bs', hbs, rfl⟩
    exact ⟨b, bs', hb, hbs, rfl⟩
  · rintro ⟨b, bs', hb, hbs, rfl⟩
    exact ⟨b, hb, bs', hbs, rfl⟩

theorem exists_of_mapM_eq_ok {f : α → Except Fault β} {xs : List α} {bs : List β}
    (h : xs.mapM f = .ok bs) {x : α} (hx : x ∈ xs) : ∃ b, f x = .ok b := by
  induction xs generalizing bs with
  | nil => cases hx
  | cons y xs ih =>
    obtain ⟨b, bs', hb, hbs, rfl⟩ := mapM_cons_eq_ok.mp h
    rcases List.mem_cons.mp hx with rfl | hx
    · exact ⟨b, hb⟩
    · exact ih hbs hx

theorem mapM_eq_ok_map {f : α → Except Fault β} {g : α → β} {xs : List α}
    (h : ∀ x ∈ xs, f x = .ok (g x)) : xs.mapM f = .ok (xs.map g) := by
  induction xs with
  | nil => rfl
  | cons x xs ih =>
    rw [List.forall_mem_cons] at h
    exact mapM_cons_eq_ok.mpr ⟨g x, xs.map g, h.1, ih h.2, rfl⟩

theorem map_eq_ok {x : Except Fault α} {f : α → β} {b : β} :
    f <$> x = .ok b ↔ ∃ a, x = .ok a ∧ f a = b := by
  rw [map_eq_pure_bind, bind_eq_ok]
  simp only [pure_eq_ok]

theorem exists_of_map_eq_ok {ε : Type} {x : Except ε α} {f : α → β} {b : β}
    (h : x.map f = .ok b) : ∃ a, x = .ok a ∧ f a = b := by
  cases x with
  | error e => cases h
  | ok a => exact ⟨a, rfl, Except.ok.inj h⟩

end

theorem mapM_map_eq {m : Type → Type} [Monad m] [LawfulMonad m] {α β γ : Type} (f : α → m β)
    (g : β → γ) (xs : List α) : (xs.mapM fun x => g <$> f x) = List.map g <$> xs.mapM f := by
  induction xs with
  | nil => simp
  | cons x xs ih => simp [ih]

/-- A fold whose steps first do something that does not depend on what is folded may do it all at
first. -/
theorem foldlM_eq_mapM {m : Type → Type} [Monad m] [LawfulMonad m] {α β γ : Type} (f : β → m γ)
    (g : α → γ → α) (xs : List β) (a : α) :
    xs.foldlM (fun a x => g a <$> f x) a = List.foldl g a <$> xs.mapM f := by
  induction xs generalizing a with
  | nil => simp
  | cons x xs ih => simp [ih]

namespace Act

variable {α β : Type}

theorem run_bind (x : Act α) (f : α → Act β) (w : World) :
    (x >>= f).run.run w = match x.run.run w with
      | (.ok a, w') => (f a).run.run w'
      | (.error e, w') => (.error e, w') := by
  rw [ExceptT.run_bind, StateT.run_bind]
  rcases x.run.run w with ⟨_ | a, w'⟩ <;> rfl

theorem bind_runs_ok {x : Act α} {f : α → Act β} {w w' : World} {b : β} :
    (x >>= f).run.run w = (.ok b, w') ↔
      ∃ a w₁, x.run.run w = (.ok a, w₁) ∧ (f a).run.run w₁ = (.ok b, w') := by
  rw [run_bind]
  rcases x.run.run w with ⟨_ | a, w₁⟩
  · constructor
    · intro h
      cases h
    · rintro ⟨_, _, he, _⟩
      cases he
  · constructor
    · intro h
      exact ⟨a, w₁, rfl, h⟩
    · rintro ⟨_, _, he, h⟩
      cases he
      exact h

theorem ofExcept_runs_ok {e : Except Fault α} {w w' : World} {a : α} :
    (ofExcept e).run.run w = (.ok a, w') ↔ e = .ok a ∧ w = w' := Prod.ext_iff

theorem pure_runs_ok {w w' : World} {a b : α} :
    (pure a : Act α).run.run w = (.ok b, w') ↔ a = b ∧ w = w' := by
  have hp : (pure a : Act α).run.run w = (.ok a, w) := rfl
  rw [hp, Prod.mk.injEq, Except.ok.injEq]

theorem map_runs_ok {x : Act α} {f : α → β} {w w' : World} {b : β} :
    (f <$> x).run.run w = (.ok b, w') ↔ ∃ a, x.run.run w = (.ok a, w') ∧ f a = b := by
  rw [map_eq_pure_bind, bind_runs_ok]
  constructor
  · rintro ⟨a, w₁, hx, hf⟩
    obtain ⟨rfl, rfl⟩ := pure_runs_ok.mp hf
    exact ⟨a, hx, rfl⟩
  · rintro ⟨a, hx, rfl⟩
    exact ⟨a, w', hx, rfl⟩

theorem throw_runs_ne_ok {e : Fault} {w w' : World} {a : α} :
    (throw e : Act α).run.run w ≠ (.ok a, w') := by
  intro h
  cases h

end Act

namespace Check

variable {τ α β : Type}

theorem run_bind (x : Check τ α) (f : α → Check τ β) (t : τ) (w : World) :
    ((x >>= f).runOn t).run w = match (x.runOn t).run w with
      | ((.ok a, t'), w') => ((f a).runOn t').run w'
      | ((.error e, t'), w') => ((.error e, t'), w') := by
  unfold runOn
  rw [ExceptT.run_bind, StateT.run_bind, StateT.run_bind]
  rcases StateT.run (StateT.run x.run t) w with ⟨⟨_ | a, t'⟩, w'⟩ <;> rfl

theorem bind_runs_ok {x : Check τ α} {f : α → Check τ β} {t t' : τ} {w w' : World} {b : β} :
    ((x >>= f).runOn t).run w = ((.ok b, t'), w') ↔ ∃ a t₁ w₁,
      (x.runOn t).run w = ((.ok a, t₁), w₁) ∧ ((f a).runOn t₁).run w₁ = ((.ok b, t'), w') := by
  rw [run_bind]
  rcases (x.runOn t).run w with ⟨⟨_ | a, t₁⟩, w₁⟩
  · constructor
    · intro h
      cases h
    · rintro ⟨_, _, _, he, _⟩
      cases he
  · constructor
    · intro h
      exact ⟨a, t₁, w₁, rfl, h⟩
    · rintro ⟨_, _, _, he, h⟩
      cases he
      exact h

theorem outcome_eq_iff {x : Except Fault α} {t t' : τ} {w w' : World} {a : α} :
    ((x, t), w) = ((.ok a, t'), w') ↔ x = .ok a ∧ t = t' ∧ w = w' := by
  rw [Prod.mk.injEq, Prod.mk.injEq, and_assoc]

theorem ofExcept_runs_ok {e : Except Fault α} {t t' : τ} {w w' : World} {a : α} :
    ((ofExcept e : Check τ α).runOn t).run w = ((.ok a, t'), w') ↔ e = .ok a ∧ t = t' ∧ w = w' :=
  outcome_eq_iff

theorem pure_runs_ok {t t' : τ} {w w' : World} {a b : α} :
    ((pure a : Check τ α).runOn t).run w = ((.ok b, t'), w') ↔ a = b ∧ t = t' ∧ w = w' := by
  have hp : ((pure a : Check τ α).runOn t).run w = ((.ok a, t), w) := rfl
  rw [hp, outcome_eq_iff, Except.ok.injEq]

theorem get_runs_ok {t t' a : τ} {w w' : World} :
    ((getThe τ : Check τ τ).runOn t).run w = ((.ok a, t'), w') ↔ t = a ∧ t = t' ∧ w = w' :=
  pure_runs_ok

theorem lift_run (x : Act α) (t : τ) (w : World) :
    ((liftM x : Check τ α).runOn t).run w = (((x.run.run w).1, t), (x.run.run w).2) := rfl

theorem lift_runs_ok {x : Act α} {t t' : τ} {w w' : World} {a : α} :
    ((liftM x : Check τ α).runOn t).run w = ((.ok a, t'), w') ↔
      x.run.run w = (.ok a, w') ∧ t = t' := by
  rw [lift_run]
  rcases x.run.run w with ⟨r, w₁⟩
  constructor
  · intro h
    cases h
    exact ⟨rfl, rfl⟩
  · rintro ⟨h, rfl⟩
    cases h
    rfl

end Check

end Lifecycle
