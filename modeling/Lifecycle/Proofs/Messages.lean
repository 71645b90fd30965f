import Lifecycle.Proofs.Fields
import Lifecycle.Proofs.Steady

namespace Lifecycle

theorem nodup_eraseDups : ∀ xs : List String, xs.eraseDups.Nodup
  | [] => .nil
  | x :: xs => by
    rw [List.eraseDups_cons, List.nodup_cons]
    refine ⟨?_, nodup_eraseDups _⟩
    simp
termination_by xs => xs.length
decreasing_by exact Nat.lt_succ_of_le (List.length_filter_le _ xs)

theorem eraseDups_concat (xs : List String) (x : String) :
    (xs ++ [x]).eraseDups = if x ∈ xs then xs.eraseDups else xs.eraseDups ++ [x] := by
  rw [List.eraseDups_append]
  by_cases h : x ∈ xs <;> simp [h, List.removeAll, List.eraseDups_cons]

def FieldError.said (w : World) (e : FieldError) : Except Fault (String × String) := do
  return (e.field, ← Template.render w.displayed e.template e.keyTable)

namespace Changeset

def messagesOf (ms : List (String × String)) (f : String) : List String :=
  (ms.filter fun m => m.1 = f).map (·.2)

/-- Messages by field, the fields in order of their first. -/
def byField (ms : List (String × String)) : List (String × List String) :=
  (ms.map (·.1)).eraseDups.map fun f => (f, messagesOf ms f)

theorem messagesOf_concat (ms : List (String × String)) (f m g : String) :
    messagesOf (ms ++ [(f, m)]) g = messagesOf ms g ++ if f = g then [m] else [] := by
  rw [messagesOf, List.filter_append, List.map_append]
  by_cases h : f = g <;> simp [h, messagesOf]

theorem messagesOf_eq_nil {ms : List (String × String)} {f : String} (h : f ∉ ms.map (·.1)) :
    messagesOf ms f = [] := by
  rw [messagesOf, List.map_eq_nil_iff, List.filter_eq_nil_iff]
  intro m hm hf
  exact h (List.mem_map.mpr ⟨m, hm, of_decide_eq_true hf⟩)

theorem field?_byField (ms : List (String × String)) (f : String) :
    field? f (byField ms) =
      if f ∈ ms.map (·.1) then some (messagesOf ms f) else none := by
  have hkeys (fs : List String) (g : String → List String) :
      field? f (fs.map fun k => (k, g k)) = if f ∈ fs then some (g f) else none := by
    induction fs with
    | nil => rfl
    | cons k fs ih =>
      rw [List.map_cons, field?_cons, ih]
      by_cases h : k = f
      · simp [h]
      · simp [h, Ne.symm h]
  rw [byField, hkeys]
  simp only [List.mem_eraseDups]

theorem addMessage_byField (ms : List (String × String)) (f m : String) :
    addMessage (byField ms) f m = byField (ms ++ [(f, m)]) := by
  have hkeys : ((ms ++ [(f, m)]).map (·.1)).eraseDups = if f ∈ ms.map (·.1) then
      (ms.map (·.1)).eraseDups else (ms.map (·.1)).eraseDups ++ [f] := by
    rw [List.map_append]
    exact eraseDups_concat (ms.map (·.1)) f
  have hfound := field?_byField ms f
  rw [addMessage, hfound]
  -- a field with a message keeps its place, and one without is put last
  conv => rhs; rw [byField, hkeys]
  by_cases hf : f ∈ ms.map (·.1)
  · rw [if_pos hf] at hfound
    simp only [if_pos hf]
    rw [putField, hfound, if_pos Option.isSome_some, byField, List.map_map]
    apply List.map_congr_left
    intro k _
    by_cases hk : k = f
    · simp [hk, messagesOf_concat]
    · simp [hk, Ne.symm hk, messagesOf_concat]
  · simp only [if_neg hf]
    rw [byField, List.map_append]
    congr 1
    · apply List.map_congr_left
      intro k hk
      have hne : f ≠ k := fun he => hf (he ▸ List.mem_eraseDups.mp hk)
      simp [messagesOf_concat, hne]
    · simp [messagesOf_concat, messagesOf_eq_nil hf]

theorem foldl_addMessage (ms : List (String × String)) :
    ms.foldl (fun grouped m => addMessage grouped m.1 m.2) [] = byField ms := by
  suffices h : ∀ before, ms.foldl (fun grouped m => addMessage grouped m.1 m.2) (byField before) =
      byField (before ++ ms) from h []
  induction ms with
  | nil => simp
  | cons m ms ih =>
    intro before
    rw [List.foldl_cons, addMessage_byField, ih, List.append_assoc]
    rfl

theorem steady_errorsOn (cs : Changeset) (w : World) :
    Act.Steady w cs.errorsOn (byField <$> cs.errors.mapM (FieldError.said w)) := by
  have hact : cs.errorsOn = byField <$> cs.errors.mapM fun e => do
      return (e.field, ← e.message) := by
    rw [← funext foldl_addMessage, ← foldlM_eq_mapM, errorsOn]
    simp
  rw [hact, map_eq_pure_bind, map_eq_pure_bind]
  apply Act.Steady.bind
  · apply Act.Steady.mapM
    intro e
    apply (Act.steady_render e.template e.keyTable).bind
    intro m _
    exact Act.steady_pure (e.field, m)
  · intro ms _
    exact Act.steady_pure (byField ms)

/-- The grouping tells of an order of messages only what concerns one field. -/
theorem byField_perm {ms ms' : List (String × String)} (hp : ms'.Perm ms)
    (hf : ∀ f, (ms'.filter fun m => m.1 = f) = ms.filter fun m => m.1 = f) :
    (byField ms').Perm (byField ms) := by
  have hkeys : (ms'.map (·.1)).eraseDups.Perm (ms.map (·.1)).eraseDups := by
    rw [List.perm_ext_iff_of_nodup (nodup_eraseDups _) (nodup_eraseDups _)]
    intro f
    rw [List.mem_eraseDups, List.mem_eraseDups, (hp.map (·.1)).mem_iff]
  unfold byField messagesOf
  simp only [hf]
  exact hkeys.map _

theorem byField_said_perm {es es' : List FieldError} {w : World}
    {grouped : List (String × List String)} (hp : es'.Perm es)
    (hf : ∀ f, (es'.filter fun e => e.field = f) = es.filter fun e => e.field = f)
    (h : byField <$> es.mapM (FieldError.said w) = .ok grouped) :
    ∃ grouped', byField <$> es'.mapM (FieldError.said w) = .ok grouped' ∧
      grouped'.Perm grouped := by
  obtain ⟨ms, hms, rfl⟩ := map_eq_ok.mp h
  let text (e : FieldError) : String × String :=
    (e.field, ((e.said w).toOption.map (·.2)).getD "")
  have htext : ∀ e ∈ es, e.said w = .ok (text e) := by
    intro e he
    obtain ⟨⟨f, m⟩, hm⟩ := exists_of_mapM_eq_ok hms he
    have hfield : f = e.field := by
      obtain ⟨_, _, hpair⟩ := bind_eq_ok.mp hm
      cases hpair
      rfl
    simp only [text, hm, hfield]
    rfl
  have hfilter (es : List FieldError) (f : String) : ((es.map text).filter fun m => m.1 = f) =
      (es.filter fun e => e.field = f).map text := List.filter_map
  rw [mapM_eq_ok_map htext] at hms
  cases hms
  have htext' : ∀ e ∈ es', e.said w = .ok (text e) := fun e he => htext e (hp.mem_iff.mp he)
  refine ⟨byField (es'.map text), by rw [mapM_eq_ok_map htext']; rfl, ?_⟩
  apply byField_perm (hp.map text)
  intro f
  rw [hfilter, hfilter, hf]

end Changeset

end Lifecycle
