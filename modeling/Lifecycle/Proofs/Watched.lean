import Lifecycle.Proofs.Success
import Lifecycle.Strategy

namespace Lifecycle

/-- A tracker that answers as the one behind it, and notes what is asked of it. -/
structure Watched (τ : Type) where
  tracker : τ
  requests : List Request := []

variable {τ α β : Type}

namespace Watched

/-- What comes of an operation on the tracker behind, with the requests noted. -/
def seen (r : (Except Fault α × τ) × World) (requests : List Request) :
    (Except Fault α × Watched τ) × World :=
  ((r.1.1, ⟨r.1.2, requests⟩), r.2)

/-- Notes requests and passes them on, whatever comes of it. -/
def pass (requests : List Request) (x : Check τ α) : Check (Watched τ) α :=
  ExceptT.mk fun t => do
    let (r, t') ← x.runOn t.tracker
    return (r, ⟨t', t.requests ++ requests⟩)

instance [Tracker τ] : Tracker (Watched τ) where
  self := pass [] Tracker.self
  schema := pass [.schema] Tracker.schema
  hasChange f := pass [.hasChange f] (Tracker.hasChange f)
  getField f := pass [.getField f] (Tracker.getField f)
  getOriginal f := pass [.getOriginal f] (Tracker.getOriginal f)
  addError f m keys := pass [.addError f m keys] (Tracker.addError f m keys)

theorem pass_run (requests : List Request) (x : Check τ α) (t : τ) (rs : List Request) (w : World) :
    ((pass requests x).runOn ⟨t, rs⟩).run w = seen ((x.runOn t).run w) (rs ++ requests) := rfl

end Watched

open Watched

/-- An operation does to a watched tracker what it does to the tracker itself, and what it asks on the
way is as said. -/
def Asks (x : Check (Watched τ) α) (y : Check τ α) (may : List Request → Prop) : Prop :=
  ∀ t rs w, ∃ asked, may asked ∧
    (x.runOn ⟨t, rs⟩).run w = seen ((y.runOn t).run w) (rs ++ asked)

/-- An operation that asks nothing. -/
def Quiet (x : Check (Watched τ) α) (y : Check τ α) : Prop := Asks x y (· = [])

theorem quiet_pure (a : α) : Quiet (τ := τ) (pure a) (pure a) :=
  fun t rs w => ⟨[], rfl, by rw [List.append_nil]; rfl⟩

theorem quiet_throw (e : Fault) : Quiet (τ := τ) (α := α) (throw e) (throw e) :=
  fun t rs w => ⟨[], rfl, by rw [List.append_nil]; rfl⟩

theorem quiet_ofExcept (x : Except Fault α) :
    Quiet (τ := τ) (Check.ofExcept x) (Check.ofExcept x) :=
  fun t rs w => ⟨[], rfl, by rw [List.append_nil]; rfl⟩

theorem quiet_lift (x : Act α) : Quiet (τ := τ) (liftM x) (liftM x) :=
  fun t rs w => ⟨[], rfl, by rw [List.append_nil]; rfl⟩

theorem asks_pass (requests : List Request) (x : Check τ α) :
    Asks (pass requests x) x (· = requests) :=
  fun t rs w => ⟨requests, rfl, pass_run requests x t rs w⟩

section Bind

variable {x : Check (Watched τ) α} {y : Check τ α} {f : α → Check (Watched τ) β}
  {g : α → Check τ β} {may : List Request → Prop}

theorem Asks.mono {may' : List Request → Prop} (h : Asks x y may) (hs : ∀ rs, may rs → may' rs) :
    Asks x y may' := by
  intro t rs w
  obtain ⟨asked, ha, hrun⟩ := h t rs w
  exact ⟨asked, hs asked ha, hrun⟩

theorem Asks.bind_quiet (h : Asks x y may) (hf : ∀ a, Quiet (f a) (g a)) :
    Asks (x >>= f) (y >>= g) may := by
  intro t rs w
  obtain ⟨asked, ha, hrun⟩ := h t rs w
  refine ⟨asked, ha, ?_⟩
  rw [Check.run_bind, Check.run_bind, hrun]
  rcases (y.runOn t).run w with ⟨⟨e | a, t'⟩, w'⟩
  · rfl
  · obtain ⟨_, rfl, hrun'⟩ := hf a t' (rs ++ asked) w'
    rw [List.append_nil] at hrun'
    exact hrun'

theorem Quiet.bind_asks (h : Quiet x y) (hf : ∀ a, Asks (f a) (g a) may)
    (hfail : ∀ e t w t' w', (y.runOn t).run w = ((.error e, t'), w') → may []) :
    Asks (x >>= f) (y >>= g) may := by
  intro t rs w
  obtain ⟨_, rfl, hrun⟩ := h t rs w
  rw [List.append_nil] at hrun
  rw [Check.run_bind, Check.run_bind, hrun]
  rcases hy : (y.runOn t).run w with ⟨⟨e | a, t'⟩, w'⟩
  · exact ⟨[], hfail e t w t' w' hy, by rw [List.append_nil]; rfl⟩
  · exact hf a t' rs w'

theorem Quiet.bind (h : Quiet x y) (hf : ∀ a, Quiet (f a) (g a)) : Quiet (x >>= f) (y >>= g) :=
  h.bind_asks hf fun _ _ _ _ _ _ => rfl

theorem Asks.ofExcept_bind {e : Except Fault α} (hok : ∀ a, e = .ok a → Asks (f a) (g a) may)
    (herror : ∀ fault, e = .error fault → may []) :
    Asks (Check.ofExcept e >>= f) (Check.ofExcept e >>= g) may := by
  cases e with
  | ok a => exact hok a rfl
  | error fault =>
    have hmay := herror fault rfl
    exact (quiet_throw fault).mono fun rs h => h ▸ hmay

theorem Asks.lift_bind {e : Act α} (hok : ∀ a, Asks (f a) (g a) may)
    (herror : ∀ fault w w', e.run.run w = (.error fault, w') → may []) :
    Asks (liftM e >>= f) (liftM e >>= g) may := by
  refine (quiet_lift e).bind_asks hok fun fault t w t' w' hrun => ?_
  rw [Check.lift_run] at hrun
  rcases he : e.run.run w with ⟨r, w₁⟩
  rw [he] at hrun
  cases hrun
  exact herror _ _ _ he

theorem Asks.after_modify {x y} (h : Asks x y may) (f : World → World) :
    Asks (do modifyThe World f; x) (do modifyThe World f; y : Check τ α) may :=
  fun t rs w => h t rs (f w)

end Bind

def Hook.asks (h : Hook) (a : Arguments) : List Request :=
  match h.action with
  | .getField f => if a.hasTracker then [.getField f] else []
  | .hasChange f => if a.hasTracker then [.hasChange f] else []
  | .addError f m =>
    if a.hasTracker then [.addError f m [("old", a.old), ("new", a.new)]] else []
  | _ => []

def Value.hook? : Value → Option Hook
  | .hook h | .method _ (.hook h) "__call__" => some h
  | _ => Option.none

theorem Value.eq_of_hook? {v : Value} {h : Hook} (hv : v.hook? = some h) :
    v = .hook h ∨ ∃ kind, v = .method kind (.hook h) "__call__" := by
  unfold hook? at hv
  split at hv
  · exact .inl (congrArg Value.hook (Option.some.inj hv))
  · cases hv
    exact .inr ⟨_, rfl⟩
  · cases hv

def Value.asks (f : Value) (a : Arguments) : List Request :=
  ((f.callee 100).hook?.map fun h => h.asks a).getD []

theorem Hook.asks_ask (a : Arguments) (name : String) (r : Request) (q : Check τ α) :
    Asks (Hook.ask a name (pass [r] q)) (Hook.ask a name q)
      (· = if a.hasTracker then [r] else []) := by
  unfold Hook.ask
  cases a.hasTracker with
  | true => exact asks_pass [r] q
  | false => exact quiet_throw _

variable [Tracker τ]

theorem Hook.asks_call (h : Hook) (a : Arguments) :
    Asks (h.call a) (h.call a : Check τ Value) (· = h.asks a) := by
  unfold Hook.call Hook.asks
  apply Asks.after_modify
  cases h.action with
  | const v => exact quiet_pure v
  | old => exact quiet_pure a.old
  | new => exact quiet_pure a.new
  | extra i =>
    dsimp only
    cases (placeOf? a.extra.length i).bind fun n => a.extra[n]? with
    | some v => exact quiet_pure v
    | none => exact quiet_throw _
  | pairs allowed => exact quiet_pure _
  | getField f => exact asks_ask a "get_field" (.getField f) (Tracker.getField f)
  | hasChange f => exact asks_ask a "has_change" (.hasChange f) (Tracker.hasChange f)
  | addError f m =>
    exact (asks_ask a "add_error" (.addError f m [("old", a.old), ("new", a.new)])
      (Tracker.addError f m [("old", a.old), ("new", a.new)])).bind_quiet fun _ => quiet_pure _
  | raise m => exact quiet_throw _
  | query target name => exact (quiet_ofExcept _).bind fun f => quiet_lift _

theorem Value.asks_call (f : Value) (a : Arguments) :
    Asks (f.call a) (f.call a : Check τ Value) (· = f.asks a) := by
  have hself : Quiet (Tracker.self : Check (Watched τ) Value) (Tracker.self : Check τ Value) :=
    asks_pass [] Tracker.self
  unfold Value.call Value.asks
  generalize f.callee 100 = g
  cases hg : g.hook? with
  | some h =>
    rcases Value.eq_of_hook? hg with rfl | ⟨kind, rfl⟩
    · exact h.asks_call a
    · exact h.asks_call a
  | none =>
    show Asks _ _ (· = [])
    split
    · cases hg
    · cases hg
    · exact hself.bind fun v => quiet_lift _

theorem Value.quiet_call_values (f old new : Value) :
    Quiet (f.call (.values old new)) (f.call (.values old new) : Check τ Value) := by
  refine (f.asks_call (.values old new)).mono ?_
  rintro _ rfl
  have hnone (h : Hook) : h.asks (.values old new) = [] := by
    unfold Hook.asks
    split <;> rfl
  rw [Value.asks]
  cases (f.callee 100).hook? with
  | none => rfl
  | some h => exact hnone h

namespace Strategy

/-- What a strategy asks of the tracker by itself to judge a move. -/
def own : Strategy → List Request
  | .recordMethod _ => [.schema]
  | _ => []

/-- What is asked of the tracker by what its user gave a strategy to call. A strategy that another one
has for its target is such a thing. -/
inductive Inside : Strategy → Value → Value → List Request → Prop
  | recordMethod {q old new : Value} : Inside (.recordMethod q) old new []
  | matcher {v old new : Value} : Inside (.matcher v) old new []
  | predicate {f old new : Value} : Inside (.predicate f) old new (f.asks (.tracked old new []))
  | custom {f old new : Value} : Inside (.custom f) old new (f.asks (.tracked old new []))
  | external {target operation extra f old new : Value} {xs : List Value}
    (hf : findQuery target operation = .ok f) :
    Inside (.external target operation extra) old new (f.asks (.tracked old new xs))
  | notFound {target operation extra old new : Value} {e : Fault}
    (hf : findQuery target operation = .error e) :
    Inside (.external target operation extra) old new []
  | notPassed {target operation extra old new : Value} {e : Fault} {w w' : World}
    (hx : (extraOf extra).run.run w = (.error e, w')) :
    Inside (.external target operation extra) old new []
  | nested {id : Nat} {inner : Strategy} {operation extra old new x : Value} {asked : List Request}
    (ho : operation.text? = some "evaluate") (hi : Inside inner (.tuple [old, new]) x asked) :
    Inside (.external (.strategy id inner) operation extra) old new (inner.own ++ asked)

/-- The requests that judging a move may come to. -/
def MayAsk (s : Strategy) (old new : Value) (asked : List Request) : Prop :=
  ∃ inside, s.Inside old new inside ∧ asked = s.own ++ inside

omit [Tracker τ] in
theorem asks_truth {may : List Request → Prop} {x : Check (Watched τ) Value} {y : Check τ Value}
    (h : Asks x y may) :
    Asks (do return .bool (← Check.ofExcept (← x).truthOf))
      (do return .bool (← Check.ofExcept (← y).truthOf) : Check τ Value) may :=
  h.bind_quiet fun _ => (quiet_ofExcept _).bind fun _ => quiet_pure _

theorem mayAsk_inside {s : Strategy} {old new : Value} {asked : List Request} (hs : s.own = [])
    (h : s.Inside old new asked) : s.MayAsk old new asked :=
  ⟨asked, h, by rw [hs]; rfl⟩

omit [Tracker τ] in
/-- A target is looked up, and then the arguments are unpacked, before anything can be asked. -/
theorem asks_external {target operation extra old new : Value}
    {k : Value → List Value → Check (Watched τ) Value} {k' : Value → List Value → Check τ Value}
    (hk : ∀ f xs, findQuery target operation = .ok f →
      Asks (k f xs) (k' f xs) ((external target operation extra).MayAsk old new)) :
    Asks (do
        let f ← Check.ofExcept (findQuery target operation)
        let xs ← extraOf extra
        k f xs)
      (do
        let f ← Check.ofExcept (findQuery target operation)
        let xs ← extraOf extra
        k' f xs)
      ((external target operation extra).MayAsk old new) := by
  apply Asks.ofExcept_bind
  · intro f hf
    apply Asks.lift_bind
    · intro xs
      exact hk f xs hf
    · intro fault w w' hx
      exact mayAsk_inside rfl (.notPassed hx)
  · intro fault hf
    exact mayAsk_inside rfl (.notFound hf)

theorem asks_call_external {target operation extra old new f : Value} (xs : List Value)
    (hf : findQuery target operation = .ok f) :
    Asks (do return .bool (← Check.ofExcept (← f.call (.tracked old new xs)).truthOf))
      (do return .bool (← Check.ofExcept (← f.call (.tracked old new xs)).truthOf) : Check τ Value)
      ((external target operation extra).MayAsk old new) := by
  refine (asks_truth (f.asks_call (.tracked old new xs))).mono ?_
  rintro _ rfl
  exact mayAsk_inside rfl (.external hf)

theorem asks_evaluate (s : Strategy) (old new : Value) :
    Asks (s.evaluate old new) (s.evaluate old new : Check τ Value) (s.MayAsk old new) := by
  fun_induction evaluate s old new (τ := τ) with
  | case1 old new q =>
    rw [evaluate]
    have hschema : Asks (Tracker.schema : Check (Watched τ) Value) (Tracker.schema : Check τ Value)
        (· = [.schema]) := asks_pass [.schema] Tracker.schema
    refine (hschema.bind_quiet fun c => (quiet_ofExcept _).bind fun f =>
      asks_truth (f.quiet_call_values old new)).mono ?_
    rintro _ rfl
    exact ⟨[], .recordMethod, rfl⟩
  | case2 old new m =>
    rw [evaluate]
    refine (quiet_pure _).mono ?_
    rintro _ rfl
    exact mayAsk_inside rfl .matcher
  | case3 old new v hv =>
    rw [evaluate]
    · refine ((quiet_ofExcept _).bind fun f => f.quiet_call_values old new).mono ?_
      rintro _ rfl
      exact mayAsk_inside rfl .matcher
    · exact hv
  | case4 old new f =>
    rw [evaluate]
    refine (asks_truth (f.asks_call _)).mono ?_
    rintro _ rfl
    exact mayAsk_inside rfl .predicate
  | case5 old new id inner operation extra ih =>
    -- the target is a strategy itself: the pair is the old value to it, and the one argument the new
    rw [evaluate]
    apply asks_external
    intro f xs hf
    split
    · rename_i x ho
      refine (asks_truth (ih x)).mono ?_
      rintro _ ⟨inside, hi, rfl⟩
      exact mayAsk_inside rfl (.nested ho hi)
    · exact asks_call_external _ hf
  | case6 old new target operation extra ht =>
    rw [evaluate]
    · apply asks_external
      intro f xs hf
      exact asks_call_external xs hf
    · exact ht
  | case7 old new f =>
    rw [evaluate]
    refine (f.asks_call _).mono ?_
    rintro _ rfl
    exact mayAsk_inside rfl .custom

end Strategy

end Lifecycle
