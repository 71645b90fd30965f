import Lifecycle.Proofs.Expansion.Composition
import Lifecycle.Proofs.Expansion.Cover
import Lifecycle.Proofs.Expansion.Faults

namespace Lifecycle

/-- The values in front of the first that is a wildcard. -/
def beforeWildcard (xs : List Value) : List Value := xs.takeWhile fun x => !x.isWildcard

section

variable {β : Type} {f : Value → Except Fault (List β)} {x : Value} {xs : List Value} {e : Fault}

theorem isWildcard_of_mem_beforeWildcard (h : x ∈ beforeWildcard xs) : x.isWildcard = false := by
  simpa using List.all_eq_true.mp List.all_takeWhile x h

theorem beforeWildcard_cons (h : x.isWildcard = false) :
    beforeWildcard (x :: xs) = x :: beforeWildcard xs := by
  simp [beforeWildcard, h]

theorem gather_stops (hbefore : ∀ x ∈ beforeWildcard xs, f x = .error e ∨ ∃ here, f x = .ok here)
    (hwild : ∀ x ∈ xs, x.isWildcard = true → f x = .error e)
    (h : ∃ x ∈ xs, x.isWildcard = true) : gather f xs = .error e := by
  -- what stands in front of the first wildcard fails as it does, or is passed
  induction xs with
  | nil =>
    obtain ⟨x, hx, _⟩ := h
    cases hx
  | cons x xs ih =>
    rw [gather]
    cases hx : x.isWildcard with
    | true =>
      rw [hwild x List.mem_cons_self hx]
      rfl
    | false =>
      rw [beforeWildcard_cons hx, List.forall_mem_cons] at hbefore
      have hlater : ∃ y ∈ xs, y.isWildcard = true := by
        obtain ⟨y, hy, hyw⟩ := h
        rcases List.mem_cons.mp hy with rfl | hy
        · rw [hx] at hyw
          cases hyw
        · exact ⟨y, hy, hyw⟩
      have hrest := ih hbefore.2 (fun y hy => hwild y (List.mem_cons_of_mem _ hy)) hlater
      rcases hbefore.1 with hxe | ⟨here, hxo⟩
      · rw [hxe]
        rfl
      · rw [hxo, ok_bind, hrest]
        rfl

end

namespace Domain

variable {d : Domain} {s t w : Value} {f : Fault} {limit : Nat} {xs : List Value}
  {rule : Value → Except Fault (List Pair)}

/-- Replaces wildcards call by call: each state that a wildcard stands for makes a candidate of its
own, which is expanded in a call within the call. Past the limit nothing is expanded any more. -/
def expandWithin (d : Domain) : Nat → Value → Value → Except Fault (List Pair)
  | 0, _, _ => .error .endlessExpansion
  | limit + 1, s, t =>
    if s.isWildcard then gather (fun x => d.expandWithin limit x t) d.states
    else if t.isWildcard then gather (fun x => d.expandWithin limit s x) d.states
    else d.concretePairs s t

/-- Compiles rules with as many calls within calls as the limit allows for each candidate. -/
def expandRulesWithin (d : Domain) (limit : Nat) (rules : Value) : Except Fault Expansion := do
  let raw ← rawEntries rules
  let pairs := (← gather (fun entry => do
    gather (fun c => d.expandWithin limit c.1 c.2) (candidates (← entry))) raw).map Pair.value
  needAllHashable pairs
  return ⟨d, distinct pairs, raw.length⟩

/-- What a state of a rule is replaced by before a wildcard is met. -/
def replaceBefore (d : Domain) (s : Value) : List Value :=
  if s.isWildcard then beforeWildcard d.states else [s]

theorem expandWithin_source (hs : s.isWildcard = true) :
    d.expandWithin (limit + 1) s t = gather (fun x => d.expandWithin limit x t) d.states := by
  rw [expandWithin, if_pos hs]

theorem expandWithin_target (hs : s.isWildcard = false) (ht : t.isWildcard = true) :
    d.expandWithin (limit + 1) s t = gather (d.expandWithin limit s) d.states := by
  rw [expandWithin, hs, if_neg Bool.false_ne_true, if_pos ht]

theorem expandWithin_move (hs : s.isWildcard = false) (ht : t.isWildcard = false) :
    d.expandWithin (limit + 1) s t = d.concretePairs s t := by
  rw [expandWithin, hs, ht, if_neg Bool.false_ne_true, if_neg Bool.false_ne_true]

theorem go_eq_gather {g : Value → Except Fault (List Pair)}
    (hg : ∀ x ∈ xs, x.isWildcard = false → g x = rule x)
    (hw : (∀ x ∈ beforeWildcard xs, ∃ here, rule x = .ok here) →
      ∀ x ∈ xs, x.isWildcard = true → g x = .error .endlessExpansion) :
    forEachState.go rule xs = gather g xs := by
  induction xs with
  | nil => rfl
  | cons x xs ih =>
    rw [gather]
    cases hx : x.isWildcard with
    | true =>
      -- nothing is in front of this wildcard, so that nothing there has failed
      have hfirst : beforeWildcard (x :: xs) = [] := by simp [beforeWildcard, hx]
      rw [go_wildcard hx, hw (by simp [hfirst]) x List.mem_cons_self hx]
      rfl
    | false =>
      rw [go_cons hx, hg x List.mem_cons_self hx]
      cases hr : rule x with
      | error e => rfl
      | ok here =>
        have hgo := ih (fun y hy => hg y (List.mem_cons_of_mem _ hy)) fun hok y hy => by
          refine hw ?_ y (List.mem_cons_of_mem _ hy)
          rw [beforeWildcard_cons hx, List.forall_mem_cons]
          exact ⟨⟨here, hr⟩, hok⟩
        rw [ok_bind, ok_bind, hgo]

/-- A wildcard state is expanded without end, however far the limit is, when what is in front of the
first such state gives no fault of its own. -/
theorem endless_of_before (run : Nat → Value → Except Fault (List Pair))
    (hzero : ∀ x, run 0 x = .error .endlessExpansion)
    (hsucc : ∀ n x, x.isWildcard = true → run (n + 1) x = gather (run n) d.states)
    (hbefore : ∀ n, ∀ x ∈ beforeWildcard d.states,
      run n x = .error .endlessExpansion ∨ ∃ here, run n x = .ok here)
    (hmem : w ∈ d.states) (hw : w.isWildcard = true) (n : Nat) :
    run n w = .error .endlessExpansion := by
  -- on the limit, for all wildcard states at once: each meets all of them again in the call below
  induction n generalizing w with
  | zero => exact hzero w
  | succ n ih =>
    rw [hsucc n w hw]
    exact gather_stops (hbefore n) (fun x hx hxw => ih hx hxw) ⟨w, hmem, hw⟩

theorem expandWithin_eq_expandTarget (hs : s.isWildcard = false) :
    d.expandWithin (limit + 2) s t = d.expandTarget s t := by
  unfold expandTarget
  cases ht : t.isWildcard with
  | false => exact expandWithin_move hs ht
  | true =>
    rw [expandWithin_target hs ht, if_pos rfl]
    symm
    refine go_eq_gather (fun x _ hx => expandWithin_move hs hx) ?_
    intro hok x hx hxw
    refine endless_of_before (fun n => d.expandWithin n s) (fun _ => rfl)
      (fun n x hx => expandWithin_target hs hx) ?_ hx hxw (limit + 1)
    intro n x hx
    cases n with
    | zero => exact .inl rfl
    | succ n =>
      rw [expandWithin_move hs (isWildcard_of_mem_beforeWildcard hx)]
      exact .inr (hok x hx)

theorem expandTarget_ne_ok {ps : List Pair} (ht : t.isWildcard = true) (hmem : w ∈ d.states)
    (hw : w.isWildcard = true) : d.expandTarget s t ≠ .ok ps := by
  intro h
  rw [expandTarget, if_pos ht] at h
  have hno := (go_eq_ok.mp h).1 w hmem
  rw [hw] at hno
  cases hno

/-- Two calls within a call are enough: the expansion of a candidate is what the calls come to with any
limit that allows them. -/
theorem expandWithin_eq : d.expandWithin (limit + 3) s t = d.expandCandidate s t := by
  unfold expandCandidate
  cases hs : s.isWildcard with
  | false => exact expandWithin_eq_expandTarget hs
  | true =>
    rw [expandWithin_source hs, if_pos rfl]
    symm
    refine go_eq_gather (fun x _ hx => expandWithin_eq_expandTarget hx) ?_
    intro hok x hx hxw
    refine endless_of_before (fun n x => d.expandWithin n x t) (fun _ => rfl)
      (fun n x hx => expandWithin_source hx) ?_ hx hxw (limit + 2)
    intro n y hy
    have hyw := isWildcard_of_mem_beforeWildcard hy
    obtain ⟨here, hyo⟩ := hok y hy
    -- a target that is a wildcard too would not have let the states in front pass
    have ht : t.isWildcard = false := by
      cases ht : t.isWildcard with
      | false => rfl
      | true => exact absurd hyo (expandTarget_ne_ok ht hx hxw)
    cases n with
    | zero => exact .inl rfl
    | succ n =>
      rw [expandTarget, ht, if_neg Bool.false_ne_true] at hyo
      exact .inr ⟨here, (expandWithin_move hyw ht).trans hyo⟩

theorem expandRulesWithin_eq (rules : Value) :
    d.expandRulesWithin (limit + 3) rules = d.expand rules := by
  have hentries : ∀ raw : List (Except Fault Entry), gather (fun entry => do
      gather (fun c => d.expandWithin (limit + 3) c.1 c.2) (candidates (← entry))) raw =
        d.expandEntries raw := by
    intro raw
    induction raw with
    | nil => rfl
    | cons entry raw ih =>
      rw [gather, expandEntries, ih]
      simp only [expandWithin_eq, expandAll_eq_gather]
      cases entry <;> rfl
  unfold expandRulesWithin expand
  simp only [hentries]

theorem go_eq_error (h : forEachState.go rule xs = .error f) :
    (f = .endlessExpansion ∧ ∃ w ∈ xs, w.isWildcard = true) ∨
      ∃ x ∈ beforeWildcard xs, rule x = .error f := by
  induction xs with
  | nil => cases h
  | cons x xs ih =>
    cases hx : x.isWildcard with
    | true =>
      rw [go_wildcard hx] at h
      cases h
      exact .inl ⟨rfl, x, List.mem_cons_self, hx⟩
    | false =>
      simp only [go_cons hx, bind_eq_error] at h
      rw [beforeWildcard_cons hx]
      rcases h with hr | ⟨here, _, hgo | ⟨there, _, hno⟩⟩
      · exact .inr ⟨x, List.mem_cons_self, hr⟩
      · rcases ih hgo with ⟨hf, w, hw, hwild⟩ | ⟨y, hy, hyf⟩
        · exact .inl ⟨hf, w, List.mem_cons_of_mem _ hw, hwild⟩
        · exact .inr ⟨y, List.mem_cons_of_mem _ hy, hyf⟩
      · cases hno

theorem expandTarget_eq_error (h : d.expandTarget s t = .error f) :
    (f = .endlessExpansion ∧ ∃ w ∈ d.states, w.isWildcard = true) ∨
      ∃ y ∈ d.replaceBefore t, d.concretePairs s y = .error f := by
  unfold expandTarget at h
  unfold replaceBefore
  cases ht : t.isWildcard with
  | true =>
    rw [ht, if_pos rfl] at h
    exact go_eq_error h
  | false =>
    rw [ht, if_neg Bool.false_ne_true] at h
    exact .inr ⟨t, List.mem_singleton_self t, h⟩

theorem expandCandidate_eq_error (h : d.expandCandidate s t = .error f) :
    (f = .endlessExpansion ∧ ∃ w ∈ d.states, w.isWildcard = true) ∨
      ∃ x ∈ d.replaceBefore s, ∃ y ∈ d.replaceBefore t, d.concretePairs x y = .error f := by
  unfold expandCandidate at h
  cases hs : s.isWildcard with
  | true =>
    rw [hs, if_pos rfl] at h
    rcases go_eq_error h with hend | ⟨x, hx, hxf⟩
    · exact .inl hend
    · have hmem : x ∈ d.replaceBefore s := by rwa [replaceBefore, if_pos hs]
      exact (expandTarget_eq_error hxf).imp_right fun hy => ⟨x, hmem, hy⟩
  | false =>
    rw [hs, if_neg Bool.false_ne_true] at h
    have hmem : s ∈ d.replaceBefore s := by
      rw [replaceBefore, hs]
      exact List.mem_singleton_self s
    exact (expandTarget_eq_error h).imp_right fun hy => ⟨s, hmem, hy⟩

theorem expandCandidate_ne_ok {ps : List Pair} (hst : (s.isWildcard || t.isWildcard) = true)
    (hmem : w ∈ d.states) (hw : w.isWildcard = true) : d.expandCandidate s t ≠ .ok ps := by
  intro h
  unfold expandCandidate at h
  cases hs : s.isWildcard with
  | true =>
    rw [hs, if_pos rfl] at h
    have hno := (go_eq_ok.mp h).1 w hmem
    rw [hw] at hno
    cases hno
  | false =>
    rw [hs, if_neg Bool.false_ne_true] at h
    rw [hs, Bool.false_or] at hst
    exact expandTarget_ne_ok hst hmem hw h

theorem alternate_eq_error {table : Table} (h : alternate table s = .error f) :
    s.needHashable = .error f ∨ f = .missingKey s := by
  simp only [alternate, Table.lookup, bind_eq_error] at h
  rcases h with (hn | ⟨_, _, hno⟩) | ⟨found, _, h⟩
  · exact .inl hn
  · cases hno
  · cases found with
    | none =>
      cases h
      exact .inr rfl
    | some a => cases h

theorem alternate_ne_endless {table : Table} : alternate table s ≠ .error .endlessExpansion := by
  intro h
  rcases alternate_eq_error h with h | h
  · obtain ⟨_, _, h⟩ := needHashable_eq_error.mp h
    cases h
  · cases h

theorem concretePairs_ne_endless : d.concretePairs s t ≠ .error .endlessExpansion := by
  intro h
  cases d with
  | flat states =>
    rw [concretePairs] at h
    split at h <;> cases h
  | dual provider table =>
    rw [concretePairs_dual_eq] at h
    split at h
    · cases h
    split at h
    · cases h
    split at h
    · cases h
    simp only [bind_eq_error] at h
    rcases h with ha | ⟨a, _, hb | ⟨b, _, hno⟩⟩
    · exact alternate_ne_endless ha
    · exact alternate_ne_endless hb
    · cases hno

theorem expand_ne_endless (hw : d.NoWildcard) (rules : Value) :
    d.expand rules ≠ .error .endlessExpansion := by
  intro h
  rcases of_expand_eq_error hw h with ⟨_, hno | hit⟩ | ⟨x, _, hx⟩ | ⟨_, _, _, _, p, _, hp⟩
  · cases hno
  · rcases Value.of_iterationFault? hit with ⟨b, hb⟩ | ⟨m, hm⟩
    · cases hb
    · cases hm
  · cases x with
    | malformed x => cases hx
    | move s t => exact concretePairs_ne_endless hx
  · obtain ⟨_, _, hp⟩ := needHashable_eq_error.mp hp
    cases hp

/-- Replacing wildcards comes to an end, two calls below the first at most, where no state is a
wildcard itself. Where one is, no candidate with a wildcard is expanded, as there is no end to it or a
move that is met before fails. Candidates without a wildcard are the moves that they are. -/
theorem expandWithin_ends (d : Domain) :
    (∀ limit, 3 ≤ limit → (∀ s t, d.expandWithin limit s t = d.expandCandidate s t) ∧
      ∀ rules, d.expandRulesWithin limit rules = d.expand rules) ∧
    (d.NoWildcard → (∀ s t, d.expandWithin 3 s t ≠ .error .endlessExpansion) ∧
      ∀ rules, d.expand rules ≠ .error .endlessExpansion) ∧
    ((∃ w ∈ d.states, w.isWildcard = true) →
      ∀ s t, (s.isWildcard || t.isWildcard) = true →
        ∃ f, (∀ limit, 3 ≤ limit → d.expandWithin limit s t = .error f) ∧
          (f = .endlessExpansion ∨
            ∃ x ∈ d.replaceBefore s, ∃ y ∈ d.replaceBefore t, d.concretePairs x y = .error f)) ∧
    ∀ s t, s.isWildcard = false → t.isWildcard = false →
      ∀ limit, 1 ≤ limit → d.expandWithin limit s t = d.concretePairs s t := by
  -- one call for the source, one for the target and one for the move that is left
  have hthree : ∀ limit, 3 ≤ limit → ∀ s t, d.expandWithin limit s t = d.expandCandidate s t := by
    intro limit hl s t
    obtain ⟨n, rfl⟩ := Nat.exists_eq_add_of_le' hl
    exact expandWithin_eq
  refine ⟨fun limit hl => ⟨hthree limit hl, fun rules => ?_⟩, ?_, ?_, ?_⟩
  · obtain ⟨n, rfl⟩ := Nat.exists_eq_add_of_le' hl
    exact expandRulesWithin_eq rules
  · intro hw
    refine ⟨fun s t h => ?_, expand_ne_endless hw⟩
    rw [hthree 3 (Nat.le_refl 3)] at h
    rcases expandCandidate_eq_error h with ⟨_, w, hmem, hwild⟩ | ⟨x, _, y, _, hxy⟩
    · rw [hw w hmem] at hwild
      cases hwild
    · exact concretePairs_ne_endless hxy
  · rintro ⟨w, hmem, hw⟩ s t hst
    cases h : d.expandCandidate s t with
    | ok ps => exact absurd h (expandCandidate_ne_ok hst hmem hw)
    | error f =>
      refine ⟨f, fun limit hl => (hthree limit hl s t).trans h, ?_⟩
      exact (expandCandidate_eq_error h).imp_left And.left
  · intro s t hs ht limit hl
    obtain ⟨n, rfl⟩ := Nat.exists_eq_add_of_le' hl
    exact expandWithin_move hs ht

/-- A member whose text is the wildcard's is replaced for ever, after a member that may move. -/
theorem expandWithin_ends_star :
    let c : Enumeration := .mk "Star" .textual [("ONE", .text "one"), ("ANY", .text "*")] []
    let one : Value := .member c "ONE" (.text "one")
    let any : Value := .member c "ANY" (.text "*")
    let d : Domain := .dual (.enumeration c) [(one, .text "one"), (any, .text "*")]
    let d' : Domain := flat [.text "a", .text "b"]
    declare (.enumeration c) = .ok d ∧ (any ∈ d.states ∧ any.isWildcard = true) ∧
      (∀ limit, 3 ≤ limit → d.expandWithin limit one (.text "*") = .error .endlessExpansion) ∧
      d'.NoWildcard ∧ d'.expandWithin 3 (.text "*") (.text "*") ≠ .error .endlessExpansion := by
  intro c one any d d'
  have hmem : any ∈ d.states := List.mem_cons_of_mem _ List.mem_cons_self
  have hany : any.isWildcard = true := by decide
  have hw : d'.NoWildcard := by
    unfold NoWildcard
    decide
  obtain ⟨f, hf, hor⟩ := (expandWithin_ends d).2.2.1 ⟨any, hmem, hany⟩ one (.text "*") (by decide)
  have hend : f = .endlessExpansion := by
    rcases hor with hor | ⟨x, hx, y, hy, hxy⟩
    · exact hor
    · have hx' : x ∈ [one] := hx
      have hy' : y ∈ [one] := hy
      rw [List.mem_singleton.mp hx', List.mem_singleton.mp hy'] at hxy
      cases hxy
  exact ⟨rfl, ⟨hmem, hany⟩, hend ▸ hf, hw, ((expandWithin_ends d').2.1 hw).1 _ _⟩

end Domain

end Lifecycle
