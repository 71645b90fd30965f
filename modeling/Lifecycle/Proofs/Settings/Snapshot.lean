import Lifecycle.Proofs.Settings.Loading
import Lifecycle.Proofs.Settings.Reader
import Mathlib.Data.List.Induction

namespace Lifecycle

theorem concat_eq_append_cons_iff {α : Type*} {xs early late : List α} {x y : α} :
    xs ++ [y] = early ++ x :: late ↔
      (late = [] ∧ xs = early ∧ y = x) ∨ ∃ late', late = late' ++ [y] ∧ xs = early ++ x :: late' := by
  constructor
  · intro h
    rcases List.eq_nil_or_concat late with rfl | ⟨late', z, rfl⟩
    · obtain ⟨hxs, hy⟩ := List.append_inj' h rfl
      exact .inl ⟨rfl, hxs, List.singleton_inj.mp hy⟩
    · rw [List.concat_eq_append] at h ⊢
      have hsplit : early ++ x :: (late' ++ [z]) = (early ++ x :: late') ++ [z] := by simp
      obtain ⟨hxs, hy⟩ := List.append_inj' (h.trans hsplit) rfl
      exact .inr ⟨late', by rw [hy], hxs⟩
  · rintro (⟨rfl, rfl, rfl⟩ | ⟨late', rfl, rfl⟩) <;> simp

/-- What can happen to a world: what settings are read from changes, the settings are let go of, one of
the operations that may ask for them is run, or anything else is noted, called or logged. -/
inductive Move where
  | surround (s : Surroundings)
  | reset
  | run {α : Type} (r : Reader α)
  | elsewhere (latest : Latest) (calls : List Call) (log : Log.Sink)

namespace World

variable {α : Type} {w : World} {ms : List Move} {m : Move} {s : Settings} {f : Fault}

def move (w : World) : Move → World
  | .surround s => { w with surroundings := s }
  | .reset => (Act.resetSettings.run.run w).2
  | .run r => (r.act.run.run w).2
  | .elsewhere latest calls log => { w with latest, calls, log }

def after (w : World) (ms : List Move) : World := ms.foldl move w

/-- After some moves an operation asks for the settings, and they can be read from what is there then. -/
def Loads (w : World) (ms : List Move) (r : Reader α) (s : Settings) : Prop :=
  r.Reads (w.after ms) ∧ Settings.load (w.after ms).surroundings none none [] = .ok s

/-- No operation has come to read the settings since they were last let go of. -/
def Fresh (w : World) (ms : List Move) : Prop :=
  ∀ (α : Type) (r : Reader α) (early late : List Move), ms = early ++ .run r :: late →
    .reset ∉ late → ∀ s, ¬ w.Loads early r s

/-- The settings as they were read first since they were last let go of. -/
def AtHand (w : World) (ms : List Move) (s : Settings) : Prop :=
  ∃ (early late : List Move) (α : Type) (r : Reader α), ms = early ++ .run r :: late ∧
    .reset ∉ late ∧ w.Fresh early ∧ w.Loads early r s

theorem after_concat (w : World) (ms : List Move) (m : Move) :
    w.after (ms ++ [m]) = (w.after ms).move m := by
  rw [after, List.foldl_append]
  rfl

theorem fresh_nil : w.Fresh [] := by
  intro α r early late h
  simp at h

theorem fresh_reset : w.Fresh (ms ++ [.reset]) := by
  intro α r early late h hlate
  rcases concat_eq_append_cons_iff.mp h with ⟨_, _, hm⟩ | ⟨late', rfl, _⟩
  · cases hm
  · simp at hlate

theorem fresh_concat (hm : m ≠ .reset) :
    w.Fresh (ms ++ [m]) ↔
      w.Fresh ms ∧ ∀ (α : Type) (r : Reader α), m = .run r → ∀ s, ¬ w.Loads ms r s := by
  constructor
  · intro h
    refine ⟨fun α r early late hms hlate => ?_, fun α r hr => ?_⟩
    · exact h α r early (late ++ [m]) (by simp [hms]) (by simp [hlate, hm.symm])
    · exact h α r ms [] (by simp [hr]) List.not_mem_nil
  · rintro ⟨hfresh, hlast⟩ α r early late h hlate
    rcases concat_eq_append_cons_iff.mp h with ⟨_, rfl, hr⟩ | ⟨late', rfl, hms⟩
    · exact hlast α r hr
    · exact hfresh α r early late' hms fun hreset => hlate (List.mem_append_left [m] hreset)

theorem not_atHand_nil : ¬ w.AtHand [] s := by
  rintro ⟨early, late, α, r, h, _⟩
  simp at h

theorem not_atHand_reset : ¬ w.AtHand (ms ++ [.reset]) s := by
  rintro ⟨early, late, α, r, h, hlate, _, hloads⟩
  exact fresh_reset α r early late h hlate s hloads

theorem atHand_concat (hm : m ≠ .reset) :
    w.AtHand (ms ++ [m]) s ↔
      w.AtHand ms s ∨ w.Fresh ms ∧ ∃ (α : Type) (r : Reader α), m = .run r ∧ w.Loads ms r s := by
  constructor
  · rintro ⟨early, late, α, r, h, hlate, hfresh, hloads⟩
    rcases concat_eq_append_cons_iff.mp h with ⟨_, rfl, hr⟩ | ⟨late', rfl, hms⟩
    · exact .inr ⟨hfresh, α, r, hr, hloads⟩
    · exact .inl ⟨early, late', α, r, hms,
        fun hreset => hlate (List.mem_append_left [m] hreset), hfresh, hloads⟩
  · rintro (⟨early, late, α, r, rfl, hlate, hfresh, hloads⟩ | ⟨hfresh, α, r, rfl, hloads⟩)
    · exact ⟨early, late ++ [m], α, r, by simp, by simp [hlate, hm.symm], hfresh, hloads⟩
    · exact ⟨ms, [], α, r, rfl, List.not_mem_nil, hfresh, hloads⟩

theorem not_fresh_of_atHand (h : w.AtHand ms s) : ¬ w.Fresh ms := by
  obtain ⟨early, late, α, r, hms, hlate, _, hloads⟩ := h
  exact fun hfresh => hfresh α r early late hms hlate s hloads

/-- There was a first time, unless the settings have not been read since they were last let go of. -/
theorem fresh_or_atHand (w : World) (ms : List Move) : w.Fresh ms ∨ ∃ s, w.AtHand ms s := by
  induction ms using List.reverseRec with
  | nil => exact .inl fresh_nil
  | append_singleton ms m ih =>
    by_cases hm : m = .reset
    · rw [hm]
      exact .inl fresh_reset
    rcases ih with hfresh | ⟨s, hs⟩
    · by_cases hloads : ∃ (α : Type) (r : Reader α) (s : Settings), m = .run r ∧ w.Loads ms r s
      · obtain ⟨α, r, s, hr, hs⟩ := hloads
        exact .inr ⟨s, (atHand_concat hm).mpr (.inr ⟨hfresh, α, r, hr, hs⟩)⟩
      · exact .inl ((fresh_concat hm).mpr ⟨hfresh, fun α r hr s hs => hloads ⟨α, r, s, hr, hs⟩⟩)
    · exact .inr ⟨s, (atHand_concat hm).mpr (.inl hs)⟩

/-- What a world has got hold of is what is at hand after the moves that led to it. -/
theorem cached_after_iff (hw : w.cached = none) (ms : List Move) (s : Settings) :
    (w.after ms).cached = some s ↔ w.AtHand ms s := by
  -- From the end of the run: what one more move does to what is cached is what it does to what is at hand.
  induction ms using List.reverseRec generalizing s with
  | nil =>
    show w.cached = some s ↔ _
    rw [hw]
    exact iff_of_false nofun not_atHand_nil
  | append_singleton ms m ih =>
    rw [after_concat]
    by_cases hreset : m = .reset
    · rw [hreset]
      exact iff_of_false nofun not_atHand_reset
    rw [atHand_concat hreset, ← ih]
    cases m with
    | reset => exact absurd rfl hreset
    | surround t => simp [move]
    | elsewhere latest calls log => simp [move]
    | run r =>
      have hrun : (∃ (β : Type) (q : Reader β), Move.run r = .run q ∧ w.Loads ms q s) ↔
          w.Loads ms r s := by
        constructor
        · rintro ⟨β, q, hq, hloads⟩
          cases hq
          exact hloads
        · exact fun hloads => ⟨_, r, rfl, hloads⟩
      rw [hrun]
      show (r.act.run.run (w.after ms)).2.cached = some s ↔ _
      by_cases hreads : r.Reads (w.after ms)
      · cases hc : (w.after ms).cached with
        | some s₀ =>
          have hnot := not_fresh_of_atHand ((ih s₀).mp hc)
          rw [Reader.run_of_ok hreads (settings?_of_cached hc)]
          simp [holding, hnot]
        | none =>
          have hfresh : w.Fresh ms := (w.fresh_or_atHand ms).resolve_right fun ⟨s₀, hs⟩ => by
            rw [← ih, hc] at hs
            cases hs
          cases hload : Settings.load (w.after ms).surroundings none none [] with
          | ok s₀ =>
            rw [Reader.run_of_ok hreads ((settings?_of_none hc).trans hload)]
            simp [holding, hfresh, Loads, hreads, hload]
          | error f =>
            rw [(Reader.run_of_error hreads ((settings?_of_none hc).trans hload)).2, hc]
            simp [Loads, hload]
      · rw [Reader.cached_of_not_reads hreads]
        simp [Loads, hreads]

theorem settings?_after (hw : w.cached = none) (ms : List Move) :
    (∀ s, w.AtHand ms s → (w.after ms).settings? = .ok s) ∧
      (w.Fresh ms → (w.after ms).cached = none ∧
        (w.after ms).settings? = Settings.load (w.after ms).surroundings none none []) := by
  constructor
  · intro s hs
    exact settings?_of_cached ((cached_after_iff hw ms s).mpr hs)
  · intro hfresh
    have hnone : (w.after ms).cached = none := by
      cases hc : (w.after ms).cached with
      | none => rfl
      | some s => exact absurd hfresh (not_fresh_of_atHand ((cached_after_iff hw ms s).mp hc))
    exact ⟨hnone, settings?_of_none hnone⟩

/-- As long as settings are at hand, an operation that asks for them works with these. Otherwise it works
with what is read from the surroundings as they are then, which are at hand from then on; and if that
cannot be read, the fault is what it comes to and nothing is at hand. -/
theorem run_since_reset (hw : w.cached = none) (ms : List Move) (r : Reader α)
    (hr : r.Reads (w.after ms)) :
    (∀ s t, w.AtHand ms s → w.AtHand ms t → s = t) ∧
    (∀ s, w.AtHand ms s → r.act.run.run (w.after ms) =
      Prod.map id (holding · s) ((r.answer s).run.run (w.after ms))) ∧
    ((∀ s, ¬ w.AtHand ms s) →
      (∀ s, Settings.load (w.after ms).surroundings none none [] = .ok s →
        r.act.run.run (w.after ms) =
          Prod.map id (holding · s) ((r.answer s).run.run (w.after ms)) ∧
        w.AtHand (ms ++ [.run r]) s) ∧
      ∀ f, Settings.load (w.after ms).surroundings none none [] = .error f →
        (r.act.run.run (w.after ms)).1 = .error f ∧ (w.after (ms ++ [.run r])).cached = none ∧
        ∀ s, ¬ w.AtHand (ms ++ [.run r]) s) := by
  refine ⟨?_, ?_, ?_⟩
  · intro s t hs ht
    rw [← cached_after_iff hw] at hs ht
    exact Option.some.inj (hs.symm.trans ht)
  · intro s hs
    exact Reader.run_of_ok hr ((settings?_after hw ms).1 s hs)
  · intro hnone
    have hfresh : w.Fresh ms := (w.fresh_or_atHand ms).resolve_right fun ⟨s, hs⟩ => hnone s hs
    obtain ⟨hcached, hsettings⟩ := (settings?_after hw ms).2 hfresh
    constructor
    · intro s hload
      refine ⟨Reader.run_of_ok hr (hsettings.trans hload), ?_⟩
      exact (atHand_concat (m := .run r) nofun).mpr (.inr ⟨hfresh, α, r, rfl, hr, hload⟩)
    · intro f hload
      obtain ⟨hfault, hkept⟩ := Reader.run_of_error hr (hsettings.trans hload)
      have hstill : (w.after (ms ++ [.run r])).cached = none := by
        rw [after_concat]
        exact hkept.trans hcached
      refine ⟨hfault, hstill, fun s hs => ?_⟩
      rw [← cached_after_iff hw, hstill] at hs
      cases hs

/-- What is at hand outlives a change of what it was read from. Let go of, it is read from there, and
from nothing else where it cannot be read. -/
theorem run_since_reset_renamed :
    let r : Reader Strategy := .strategy .none
    let renamed : Settings := { validator := { name := "may" } }
    let fault : Fault := .rejected [Issue.at "verbose" .unreadableTruth]
    let w : World := {}
    let kept : List Move :=
      [.run r, .surround { vars := [("STATETRANSIT_VALIDATOR__NAME", "may")] }]
    let dropped : List Move := kept ++ [.reset]
    let broken : List Move := dropped ++ [.surround { vars := [("STATETRANSIT_VERBOSE", "maybe")] }]
    w.cached = none ∧ (∀ v, r.Reads v) ∧
    (w.AtHand kept {} ∧
      (r.act.run.run (w.after kept)).1 = .ok (.recordMethod (.text "can_transit"))) ∧
    ((∀ s, ¬ w.AtHand dropped s) ∧
      Settings.load (w.after dropped).surroundings none none [] = .ok renamed ∧
      (r.act.run.run (w.after dropped)).1 = .ok (.recordMethod (.text "may"))) ∧
    (∀ s, ¬ w.AtHand broken s) ∧
      Settings.load (w.after broken).surroundings none none [] = .error fault ∧
      (r.act.run.run (w.after broken)).1 = .error fault := by
  intro r renamed fault w kept dropped broken
  have hw : w.cached = none := rfl
  have hreads : ∀ v, r.Reads v := fun _ => rfl
  have hfirst : Settings.load w.surroundings none none [] = .ok {} := Settings.load_defaults
  have hread : w.after [.run r] = w.holding {} :=
    congrArg Prod.snd (Reader.run_of_ok (hreads w) hfirst)
  have hkept : w.after kept =
      { w.holding {} with surroundings := { vars := [("STATETRANSIT_VALIDATOR__NAME", "may")] } } := by
    rw [← hread]
    rfl
  have hathand : w.AtHand kept {} := (cached_after_iff hw kept {}).mp (by rw [hkept]; rfl)
  have hdropped : w.after dropped =
      { w with surroundings := { vars := [("STATETRANSIT_VALIDATOR__NAME", "may")] } } := by
    rw [after_concat, hkept]
    rfl
  have hnone : ∀ s, ¬ w.AtHand dropped s := fun s => not_atHand_reset
  have hload : Settings.load (w.after dropped).surroundings none none [] = .ok renamed := by
    rw [hdropped]
    exact Settings.load_name "may"
  have hbroken : w.after broken =
      { w with surroundings := { vars := [("STATETRANSIT_VERBOSE", "maybe")] } } := by
    rw [after_concat, hdropped]
    rfl
  have hstill : ∀ s, ¬ w.AtHand broken s := by
    intro s hs
    rw [← cached_after_iff hw, hbroken] at hs
    cases hs
  have hfault : Settings.load (w.after broken).surroundings none none [] = .error fault := by
    rw [hbroken]
    exact Settings.load_unreadable (by decide +kernel)
  refine ⟨hw, hreads, ⟨hathand, ?_⟩, ⟨hnone, hload, ?_⟩, hstill, hfault, ?_⟩
  · rw [(run_since_reset hw kept r (hreads _)).2.1 {} hathand]
    rfl
  · rw [(((run_since_reset hw dropped r (hreads _)).2.2 hnone).1 renamed hload).1]
    rfl
  · exact (((run_since_reset hw broken r (hreads _)).2.2 hstill).2 fault hfault).1

end World

end Lifecycle
