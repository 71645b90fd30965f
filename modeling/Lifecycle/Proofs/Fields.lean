import Lifecycle.Collection

namespace Lifecycle

variable {α β : Type}

theorem field?_cons (name : String) (f : String × α) (fields : List (String × α)) :
    field? name (f :: fields) = if f.1 = name then some f.2 else field? name fields := by
  unfold field?
  rw [List.find?_cons]
  by_cases h : f.1 = name <;> simp [h]

theorem field?_map (g : String → α → β) (name : String) (fields : List (String × α)) :
    field? name (fields.map fun f => (f.1, g f.1 f.2)) = (field? name fields).map (g name) := by
  induction fields with
  | nil => rfl
  | cons f fields ih =>
    rw [List.map_cons, field?_cons, field?_cons, ih]
    by_cases h : f.1 = name <;> simp [h]

theorem field?_isSome_iff (name : String) (fields : List (String × α)) :
    (field? name fields).isSome = true ↔ name ∈ fields.map (·.1) := by
  induction fields with
  | nil => simp [field?]
  | cons f fields ih =>
    rw [field?_cons, List.map_cons, List.mem_cons, ← ih]
    by_cases h : f.1 = name
    · simp [h]
    · simp [h, Ne.symm h]

theorem field?_append (name : String) (fields more : List (String × α)) :
    field? name (fields ++ more) = (field? name fields <|> field? name more) := by
  induction fields with
  | nil => rfl
  | cons f fields ih =>
    rw [List.cons_append, field?_cons, field?_cons, ih]
    by_cases h : f.1 = name <;> simp [h]

theorem field?_putField (fields : List (String × α)) (name : String) (x : α) (other : String) :
    field? other (putField fields name x) =
      if other = name then some x else field? other fields := by
  unfold putField
  by_cases hs : (field? name fields).isSome = true
  · have hmap : (fields.map fun f => if f.1 = name then (name, x) else f) =
        fields.map fun f => (f.1, if f.1 = name then x else f.2) := by
      apply List.map_congr_left
      intro f _
      by_cases h : f.1 = name <;> simp [h]
    rw [if_pos hs, hmap, field?_map fun n y => if n = name then x else y]
    by_cases h : other = name
    · obtain ⟨y, hy⟩ := Option.isSome_iff_exists.mp hs
      simp [h, hy]
    · simp [h]
  · have hn : field? name fields = none := Option.not_isSome_iff_eq_none.mp hs
    rw [if_neg hs, field?_append, field?_cons]
    by_cases h : other = name
    · simp [h, hn]
    · simp [h, Ne.symm h, field?]

/-- The last of the fields under a name counts. -/
theorem field?_fieldsOf (entries : List (String × α)) (name : String) :
    field? name (fieldsOf entries) = field? name entries.reverse := by
  have hfold : ∀ fields : List (String × α),
      field? name (entries.foldl (fun fs e => putField fs e.1 e.2) fields) =
        (field? name entries.reverse <|> field? name fields) := by
    induction entries with
    | nil => intro fields; rfl
    | cons e entries ih =>
      intro fields
      rw [List.foldl_cons, ih, field?_putField, List.reverse_cons, field?_append, field?_cons]
      by_cases h : e.1 = name
      · cases field? name entries.reverse <;> simp [h]
      · cases field? name entries.reverse <;> simp [h, Ne.symm h, field?]
  rw [fieldsOf, hfold]
  cases field? name entries.reverse <;> rfl

theorem names_putField (fields : List (String × α)) (name : String) (x : α) :
    (putField fields name x).map (·.1) =
      if name ∈ fields.map (·.1) then fields.map (·.1) else fields.map (·.1) ++ [name] := by
  have hmem := field?_isSome_iff name fields
  unfold putField
  by_cases hs : (field? name fields).isSome = true
  · rw [if_pos hs, if_pos (hmem.mp hs), List.map_map]
    apply List.map_congr_left
    intro f _
    by_cases h : f.1 = name <;> simp [h]
  · rw [if_neg hs, if_neg fun h => hs (hmem.mpr h), List.map_append]
    rfl

theorem names_fieldsOf (entries : List (String × α)) :
    ((fieldsOf entries).map (·.1)).Nodup ∧
      ∀ n ∈ (fieldsOf entries).map (·.1), n ∈ entries.map (·.1) := by
  -- on the entries, for all fields that those before have made
  have hfold : ∀ fields : List (String × α), (fields.map (·.1)).Nodup →
      ((entries.foldl (fun fs e => putField fs e.1 e.2) fields).map (·.1)).Nodup ∧
        ∀ n ∈ (entries.foldl (fun fs e => putField fs e.1 e.2) fields).map (·.1),
          n ∈ fields.map (·.1) ∨ n ∈ entries.map (·.1) := by
    induction entries with
    | nil => exact fun fields hf => ⟨hf, fun n hn => .inl hn⟩
    | cons e entries ih =>
      intro fields hf
      have hput : ((putField fields e.1 e.2).map (·.1)).Nodup := by
        rw [names_putField]
        split
        · exact hf
        next hne =>
          refine List.nodup_append.mpr ⟨hf, by simp, ?_⟩
          intro a ha b hb he
          rw [List.mem_singleton.mp hb] at he
          exact hne (he ▸ ha)
      obtain ⟨hnodup, hsub⟩ := ih (putField fields e.1 e.2) hput
      refine ⟨hnodup, fun n hn => ?_⟩
      rcases hsub n hn with hn | hn
      · rw [names_putField] at hn
        split at hn
        · exact .inl hn
        · rcases List.mem_append.mp hn with hn | hn
          · exact .inl hn
          · rw [List.mem_singleton.mp hn]
            exact .inr List.mem_cons_self
      · exact .inr (List.mem_cons_of_mem _ hn)
  obtain ⟨hnodup, hsub⟩ := hfold [] .nil
  exact ⟨hnodup, fun n hn => (hsub n hn).resolve_left (by simp)⟩

theorem field?_reverse {fields : List (String × α)} (h : (fields.map (·.1)).Nodup) (name : String) :
    field? name fields.reverse = field? name fields := by
  induction fields with
  | nil => rfl
  | cons f fields ih =>
    obtain ⟨hf, h⟩ := List.nodup_cons.mp h
    rw [List.reverse_cons, field?_append, ih h, field?_cons, field?_cons]
    by_cases hname : f.1 = name
    · have hnone : field? name fields = none := by
        rw [← Option.not_isSome_iff_eq_none, field?_isSome_iff, ← hname]
        exact hf
      simp [hname, hnone]
    · cases field? name fields <;> simp [hname, field?]

end Lifecycle
