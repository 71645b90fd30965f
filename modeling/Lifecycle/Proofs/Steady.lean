import Lifecycle.Proofs.Success
import Lifecycle.Changeset

namespace Lifecycle

variable {α β : Type}

/-- A value as it is shown, with a token for an absent one that may not be at hand. -/
def Value.shownWith (token : Except Fault String) (v : Value) : Except Fault String :=
  match v with
  | .none => token
  | v => v.shown

namespace World

def current (w : World) (v : Value) : Value :=
  if w.latest.isEmpty then v else v.refresh w.latest

def settings? (w : World) : Except Fault Settings :=
  match w.cached with
  | some s => .ok s
  | none => Settings.load w.surroundings none none []

def displayed (w : World) (v : Value) : Except Fault String :=
  v.shownWith (w.settings?.map fun s => s.validator.absentToken)

/-- A world in which settings and values are as in another one. What was called and written may
differ. -/
def Like (v w : World) : Prop := v.settings? = w.settings? ∧ v.latest = w.latest

/-- A world that has got hold of settings. -/
def holding (w : World) (s : Settings) : World := { w with cached := some s }

variable {w : World} {s : Settings}

@[simp] theorem settings?_holding : (w.holding s).settings? = .ok s := rfl

theorem holding_of_cached (h : w.cached = some s) : w.holding s = w := by
  cases w
  cases h
  rfl

theorem settings?_of_cached (h : w.cached = some s) : w.settings? = .ok s := by
  rw [settings?, h]

theorem settings?_of_none (h : w.cached = none) :
    w.settings? = Settings.load w.surroundings none none [] := by
  rw [settings?, h]

theorem Like.refl (w : World) : w.Like w := ⟨rfl, rfl⟩

theorem Like.current_eq {v w : World} (h : v.Like w) (x : Value) : v.current x = w.current x := by
  rw [current, current, h.2]

end World

namespace Act

variable {w : World}

/-- In all worlds like the given one an operation comes to the same result, and leaves such a world. -/
def Steady (w : World) (x : Act α) (r : Except Fault α) : Prop :=
  ∀ v, v.Like w → ∃ v', x.run.run v = (r, v') ∧ v'.Like w

theorem steady_ofExcept (e : Except Fault α) : Steady w (ofExcept e) e :=
  fun v hv => ⟨v, rfl, hv⟩

theorem steady_pure (a : α) : Steady w (pure a) (.ok a) := fun v hv => ⟨v, rfl, hv⟩

theorem steady_current (x : Value) : Steady w (current x) (.ok (w.current x)) := by
  intro v hv
  rw [← hv.current_eq]
  exact ⟨v, rfl, hv⟩

theorem current_run (v : Value) (w : World) :
    (current v).run.run w = (.ok (w.current v), w) := rfl

theorem leave_run (v : Value) (rest : List Value → List Value) (w : World) :
    ∃ w', (leave v rest).run.run w = (.ok (), w') := by
  unfold leave
  split
  · unfold note
    split <;> exact ⟨_, rfl⟩
  · exact ⟨w, rfl⟩

theorem Steady.bind {x : Act α} {f : α → Act β} {r : Except Fault α} {q : α → Except Fault β}
    (hx : Steady w x r) (hf : ∀ a, r = .ok a → Steady w (f a) (q a)) :
    Steady w (x >>= f) (r >>= q) := by
  intro v hv
  obtain ⟨v₁, hrun, hv₁⟩ := hx v hv
  rw [run_bind, hrun]
  cases r with
  | error e => exact ⟨v₁, rfl, hv₁⟩
  | ok a => exact hf a rfl v₁ hv₁

theorem Steady.mapM {f : α → Act β} {q : α → Except Fault β} (xs : List α)
    (hf : ∀ a, Steady w (f a) (q a)) : Steady w (xs.mapM f) (xs.mapM q) := by
  induction xs with
  | nil => exact steady_pure []
  | cons x xs ih =>
    rw [List.mapM_cons, List.mapM_cons]
    apply (hf x).bind
    intro b _
    apply ih.bind
    intro bs _
    exact steady_pure (b :: bs)

theorem settings_run (w : World) : settings.run.run w = match w.settings? with
    | .ok s => (.ok s, w.holding s)
    | .error f => (.error f, w) := by
  have hget : (get : Act World).run.run w = (.ok w, w) := rfl
  rw [settings, run_bind, hget]
  cases hc : w.cached with
  | some s =>
    rw [World.settings?_of_cached hc]
    simp only [hc, World.holding_of_cached hc]
    rfl
  | none =>
    rw [World.settings?_of_none hc]
    simp only [hc]
    cases Settings.load w.surroundings none none [] with
    | error f => rfl
    | ok s => rfl

theorem steady_settings : Steady w settings w.settings? := by
  intro v hv
  rw [settings_run, hv.1]
  cases hs : w.settings? with
  | error f => exact ⟨v, rfl, hv⟩
  | ok s => exact ⟨v.holding s, rfl, hs.symm, hv.2⟩

theorem steady_display (v : Value) : Steady w (display v) (w.displayed v) := by
  cases v with
  | none =>
    have h := steady_settings.bind fun s _ => steady_pure (w := w) s.validator.absentToken
    unfold World.displayed Value.shownWith
    cases hs : w.settings? <;> rwa [hs] at h
  | _ => exact steady_ofExcept _

theorem steady_render (template : String) (keys : Table) :
    Steady w (render template keys) (Template.render w.displayed template keys) := by
  apply Steady.bind
  · apply Steady.mapM
    rintro (c | name)
    · exact steady_pure _
    · dsimp only [Template.segmentText, Template.fill]
      split
      · exact steady_pure _
      · exact steady_display _
  · intro parts _
    exact steady_pure _

end Act

end Lifecycle
