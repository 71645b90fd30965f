import Lifecycle.Proofs.Collection
import Lifecycle.Proofs.Owner
import Lifecycle.Strategy

namespace Lifecycle

namespace Strategy

/-- Judges a move with the strategy that a specification stands for. -/
def judge {τ : Type} [Tracker τ] (spec old new : Value) : Check τ Value := do
  let s ← resolve spec
  s.evaluate old new

theorem resolve_of_text? {spec : Value} {name : String} (h : spec.text? = some name) :
    resolve spec = pure (.recordMethod spec) := by
  have hsome : spec.text?.isSome = true := by rw [h]; rfl
  unfold Value.text? at h
  split at h
  · rfl
  · simp only [resolve, hsome, if_true]
  · simp only [resolve, hsome, if_true]
  · cases h

end Strategy

/-- What `using` may be for the rules that a class has under a name to decide: the name by itself or
in a strategy, the rules themselves, a predicate that passes the values on to them, and nothing where
the name is the one in the settings. -/
inductive Route (c : Owner) (name : String) (w : World) : Value → Prop
  | strategy {id : Nat} {q : Value} (hq : q.text? = some name) :
    Route c name w (.strategy id (.recordMethod q))
  | named {q : Value} (hq : q.text? = some name) : Route c name w q
  | rules {v : Value} (hv : (Value.owner c).find name = .ok v) : Route c name w v
  | predicate {h : Hook} (hh : h.action = .query (.owner c) name) : Route c name w (.hook h)
  | unnamed {s : Settings} (hs : (Act.settings.run.run w).1 = .ok s)
    (hn : s.validator.name = name) : Route c name w .none

namespace Route

variable {c : Owner} {name : String} {m : Matcher} {cs : Changeset} {w : World} {spec : Value}

theorem find_of_attribute (hm : c.attribute? name = some (.matcher m)) :
    (Value.owner c).find name = .ok (.matcher m) := by
  have ha : (Value.owner c).attribute? name = some (.matcher m) := by
    rw [Value.attribute?, Value.ownAttribute?, hm]
    rfl
  rw [Value.find, Value.lookup_of_attribute ha]
  rfl

theorem findQuery_of_attribute (hm : c.attribute? name = some (.matcher m)) {q : Value}
    (hq : q.text? = some name) : findQuery (.owner c) q = .ok (.matcher m) := by
  have ha : (Value.owner c).attribute? name = some (.matcher m) := by
    rw [Value.attribute?, Value.ownAttribute?, hm]
    rfl
  rw [findQuery, hq]
  simp only [Value.lookup_of_attribute ha]
  rfl

theorem recordMethod_runs (hm : c.attribute? name = some (.matcher m)) (hc : cs.schema = .owner c)
    {q : Value} (hq : q.text? = some name) (old new : Value) :
    (((Strategy.recordMethod q).evaluate old new : Check Changeset Value).runOn cs).run w =
      ((.ok (.bool (m.allowed old new)), cs), w) := by
  have hschema : ((Tracker.schema : Check Changeset Value).runOn cs).run w =
      ((.ok (.owner c), cs), w) := by
    rw [← hc]
    rfl
  unfold Strategy.evaluate
  rw [Check.run_bind, hschema]
  simp only [findQuery_of_attribute hm hq]
  rfl

theorem predicate_runs (hm : c.attribute? name = some (.matcher m)) {h : Hook}
    (hh : h.action = .query (.owner c) name) (old new : Value) :
    (((Strategy.predicate (.hook h)).evaluate old new : Check Changeset Value).runOn cs).run w =
      ((.ok (.bool (m.allowed old new)), cs),
        { w with calls := w.calls ++ [⟨h.name, true, old, new, []⟩] }) := by
  let w' : World := { w with calls := w.calls ++ [⟨h.name, true, old, new, []⟩] }
  have hcall : (((Value.hook h).call (.tracked old new []) : Check Changeset Value).runOn cs).run w =
      ((.ok (.bool (m.allowed old new)), cs), w') := by
    show ((h.call (.tracked old new []) : Check Changeset Value).runOn cs).run w = _
    unfold Hook.call
    refine Check.bind_runs_ok.mpr ⟨(), cs, w', rfl, ?_⟩
    rw [hh]
    simp only [find_of_attribute hm]
    rfl
  unfold Strategy.evaluate
  exact Check.bind_runs_ok.mpr ⟨_, cs, w', hcall, rfl⟩

/-- Every route leads to the verdict of the rules. -/
theorem judge_runs (hm : c.attribute? name = some (.matcher m)) (hc : cs.schema = .owner c)
    (hr : Route c name w spec) (old new : Value) :
    ∃ w', ((Strategy.judge spec old new : Check Changeset Value).runOn cs).run w =
      ((.ok (.bool (m.allowed old new)), cs), w') := by
  unfold Strategy.judge
  cases hr with
  | strategy hq => exact ⟨w, recordMethod_runs hm hc hq old new⟩
  | named hq =>
    rw [Strategy.resolve_of_text? hq]
    exact ⟨w, recordMethod_runs hm hc hq old new⟩
  | rules hv =>
    rw [find_of_attribute hm] at hv
    cases hv
    exact ⟨w, rfl⟩
  | predicate hh => exact ⟨_, predicate_runs hm hh old new⟩
  | @unnamed s hs hn =>
    obtain ⟨w', hw'⟩ : ∃ w', Act.settings.run.run w = (.ok s, w') := ⟨_, Prod.ext hs rfl⟩
    have hres : (Strategy.resolve .none).run.run w =
        (.ok (.recordMethod (.text s.validator.name)), w') := by
      exact Act.bind_runs_ok.mpr ⟨s, w', hw', rfl⟩
    have hq : (Value.text s.validator.name).text? = some name := by rw [← hn]; rfl
    refine ⟨w', Check.bind_runs_ok.mpr ⟨_, cs, w', Check.lift_runs_ok.mpr ⟨hres, rfl⟩, ?_⟩⟩
    exact recordMethod_runs hm hc hq old new

end Route

namespace Owner

/-- All routes to the rules that were put last under a name agree, however the class came by them.
Rules that are put on it later under other names change nothing. -/
theorem routes_agree {id : Nat} {name : String} {plain : List (String × Value)}
    {declarations : List Declaration} {decorations : List Decoration} {c : Owner} {w w' : World}
    (h : (declare id name plain declarations decorations).run.run w = (.ok c, w')) :
    ∃ sets, (installed declarations decorations).run.run w = (.ok sets, w') ∧
      ∀ (n : String) (m : Matcher) (later : List (String × Matcher)), lastOf sets n = some m →
        (∀ s ∈ later, s.1 ≠ n) →
        (Value.owner (c.installAll later)).find n = .ok (.matcher m) ∧
          ∀ (cs : Changeset) (v : World) (spec old new : Value),
            cs.schema = .owner (c.installAll later) → Route (c.installAll later) n v spec →
            ∃ v', ((Strategy.judge spec old new : Check Changeset Value).runOn cs).run v =
              ((.ok (.bool (m.allowed old new)), cs), v') := by
  rw [declare_eq, Act.map_runs_ok] at h
  obtain ⟨sets, hsets, rfl⟩ := h
  refine ⟨sets, hsets, fun n m later hlast hlater => ?_⟩
  have hm : (((bare id name plain).installAll sets).installAll later).attribute? n =
      some (.matcher m) := by
    rw [attribute?_installAll, attribute?_installAll, lastOf_eq_none hlater, hlast]
    rfl
  refine ⟨Route.find_of_attribute hm, ?_⟩
  intro cs v spec old new hc hr
  exact Route.judge_runs hm hc hr old new

/-- A decoration without a name replaces what the class declares under the name in the settings. That
the record has something of its own by that name, or the class more rules, makes no difference. -/
theorem routes_agree_replaced :
    let on : Value := .dict 0 [(.int 0, .text "new"), (.int 1, .text "done")]
    let w : World := { cached := some {} }
    ∃ c w', (declare 1 "Todo" [] [⟨"can_transit", on, .dict 0 [(.int 0, .int 1)]⟩]
        [⟨.text "", on, .dict 0 [(.int 1, .int 0)]⟩]).run.run w = (.ok c, w') ∧
      let c' := c.installAll [("can_close", .mk [] none)]
      let cs := Changeset.new (.record 2 c' [("can_transit", .bool false)]) (.dict 0 []) .none
      ∀ spec ∈ [.none, .text "can_transit", .strategy 0 (.recordMethod (.text "can_transit")),
          .hook (.mk 0 "forward" (.query (.owner c') "can_transit"))],
        ∃ v', ((Strategy.judge spec (.text "done") (.int 0) : Check Changeset Value).runOn cs).run w =
          ((.ok (.bool true), cs), v') := by
  intro on w
  obtain ⟨c, w', h⟩ : ∃ c w', (declare 1 "Todo" []
      [⟨"can_transit", on, .dict 0 [(.int 0, .int 1)]⟩]
      [⟨.text "", on, .dict 0 [(.int 1, .int 0)]⟩]).run.run w = (.ok c, w') := ⟨_, _, rfl⟩
  refine ⟨c, w', h, ?_⟩
  intro c' cs spec hspec
  obtain ⟨sets, hsets, hagree⟩ := routes_agree h
  obtain ⟨m, hlast, hallowed⟩ : ∃ m, lastOf sets "can_transit" = some m ∧
      m.allowed (.text "done") (.int 0) = true := by
    cases hsets
    refine ⟨_, rfl, ?_⟩
    show (_ && holds (distinct _) _) = true
    rw [holds_distinct]
    rfl
  have hlater : ∀ s ∈ [("can_close", Matcher.mk [] none)], s.1 ≠ "can_transit" := by decide
  obtain ⟨_, hjudge⟩ := hagree "can_transit" m _ hlast hlater
  have hroute : Route c' "can_transit" w spec := by
    simp only [List.mem_cons, List.not_mem_nil, or_false] at hspec
    rcases hspec with rfl | rfl | rfl | rfl
    · exact .unnamed rfl rfl
    · exact .named rfl
    · exact .strategy rfl
    · exact .predicate rfl
  rw [← hallowed]
  exact hjudge cs w spec (.text "done") (.int 0) rfl hroute

end Owner

end Lifecycle
