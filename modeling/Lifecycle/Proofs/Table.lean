import Lifecycle.Proofs.Collection

namespace Lifecycle.Table

variable {t t' : Table} {k v k' : Value}

theorem hasKey_iff : hasKey t k = true ↔ ∃ e ∈ t, e.1.key = k.key := by simp [hasKey]

theorem hasKey_cons (e : Value × Value) (t : Table) (k : Value) :
    hasKey (e :: t) k = (decide (e.1.key = k.key) || hasKey t k) := rfl

theorem lookup?_eq_none_iff : lookup? t k = none ↔ ∀ e ∈ t, e.1.key ≠ k.key := by
  simp [lookup?]

theorem mem_of_lookup?_eq_some (h : lookup? t k = some v) : ∃ e ∈ t, e.1.key = k.key ∧ e.2 = v := by
  obtain ⟨e, he, rfl⟩ := Option.map_eq_some_iff.mp h
  exact ⟨e, List.mem_of_find?_eq_some he, by simpa using List.find?_some he, rfl⟩

theorem lookup?_congr (h : k.key = k'.key) : lookup? t k = lookup? t k' := by
  simp only [lookup?, h]

theorem lookup?_cons (e : Value × Value) (t : Table) (k : Value) :
    lookup? (e :: t) k = if e.1.key = k.key then some e.2 else lookup? t k := by
  unfold lookup?
  rw [List.find?_cons]
  by_cases h : e.1.key = k.key <;> simp [h]

theorem hasKey_eq_isSome (t : Table) (k : Value) : hasKey t k = (lookup? t k).isSome := by
  induction t with
  | nil => rfl
  | cons e t ih =>
    rw [hasKey_cons, lookup?_cons, ih]
    by_cases h : e.1.key = k.key <;> simp [h]

theorem lookup?_map_replace (t : Table) (k v k' : Value) :
    lookup? (t.map fun e => if e.1.key = k.key then (e.1, v) else e) k' =
      if hasKey t k ∧ k'.key = k.key then some v else lookup? t k' := by
  induction t with
  | nil => simp [hasKey, lookup?]
  | cons e t ih =>
    rw [List.map_cons, lookup?_cons, lookup?_cons, hasKey_cons, ih]
    by_cases he : e.1.key = k.key
    · by_cases hk : k'.key = k.key
      · simp [he, hk]
      · simp [he, hk, Ne.symm hk]
    · by_cases hk : k'.key = k.key
      · have hek : ¬ e.1.key = k'.key := fun h => he (h.trans hk)
        simp [he, hk]
      · simp [he, hk]

theorem lookup?_append (t : Table) (k v k' : Value) :
    lookup? (t ++ [(k, v)]) k' =
      (lookup? t k').or (if k.key = k'.key then some v else none) := by
  induction t with
  | nil => simp [lookup?]
  | cons e t ih =>
    rw [List.cons_append, lookup?_cons, lookup?_cons, ih]
    by_cases he : e.1.key = k'.key <;> simp [he]

theorem lookup?_put (t : Table) (k v k' : Value) :
    lookup? (put t k v) k' = if k'.key = k.key then some v else lookup? t k' := by
  unfold put
  by_cases h : hasKey t k = true
  · rw [if_pos h, lookup?_map_replace]
    simp [h]
  -- a new key is put last, and is not found before that
  · rw [if_neg h, lookup?_append]
    by_cases hk : k'.key = k.key
    · have hn : lookup? t k' = none := by
        rw [lookup?_eq_none_iff]
        intro e he hek
        exact h (hasKey_iff.mpr ⟨e, he, hek.trans hk⟩)
      simp [hk, hn]
    · simp [hk, Ne.symm hk]

/-- No two entries have the same key. -/
def IsKeyed (t : Table) : Prop := t.Pairwise fun e f => e.1.key ≠ f.1.key

theorem keys_put (t : Table) (k v : Value) :
    keys (put t k v) = if hasKey t k then keys t else keys t ++ [k] := by
  unfold put keys
  split
  · rw [List.map_map]
    refine List.map_congr_left fun e _ => ?_
    show (if e.1.key = k.key then (e.1, v) else e).1 = e.1
    split <;> rfl
  · rw [List.map_append]
    rfl

theorem isKeyed_iff : IsKeyed t ↔ (keys t).Pairwise fun k l => k.key ≠ l.key :=
  (List.pairwise_map (f := Prod.fst) (R := fun k l : Value => k.key ≠ l.key)).symm

theorem isKeyed_put (h : IsKeyed t) (k v : Value) : IsKeyed (put t k v) := by
  rw [isKeyed_iff] at h ⊢
  rw [keys_put]
  split
  · exact h
  next hn =>
    refine List.pairwise_append.mpr ⟨h, List.pairwise_singleton _ _, ?_⟩
    intro l hl m hm hk
    obtain ⟨e, he, rfl⟩ := List.mem_map.mp hl
    rw [List.mem_singleton.mp hm] at hk
    exact hn (hasKey_iff.mpr ⟨e, he, hk⟩)

theorem isKeyed_foldl_put (entries : List (Value × Value)) (h : IsKeyed t) :
    IsKeyed (entries.foldl (fun t e => put t e.1 e.2) t) := by
  induction entries generalizing t with
  | nil => exact h
  | cons e entries ih => exact ih (isKeyed_put h e.1 e.2)

theorem isKeyed_ofList (entries : List (Value × Value)) : IsKeyed (ofList entries) :=
  isKeyed_foldl_put entries .nil

theorem mem_keys_foldl_put {entries : List (Value × Value)}
    (h : k ∈ keys (entries.foldl (fun t e => put t e.1 e.2) t)) :
    k ∈ keys t ∨ k ∈ keys entries := by
  induction entries generalizing t with
  | nil => exact .inl h
  | cons e entries ih =>
    rcases ih h with hk | hk
    · rw [keys_put] at hk
      split at hk
      · exact .inl hk
      · rcases List.mem_append.mp hk with hk | hk
        · exact .inl hk
        · exact .inr (List.mem_cons.mpr (.inl (List.mem_singleton.mp hk)))
    · exact .inr (List.mem_cons_of_mem _ hk)

theorem lookup?_foldl_put {entries : List (Value × Value)}
    (h : lookup? (entries.foldl (fun t e => put t e.1 e.2) t) k = some v) :
    lookup? t k = some v ∨ ∃ e ∈ entries, e.1.key = k.key ∧ e.2 = v := by
  induction entries generalizing t with
  | nil => exact .inl h
  | cons e entries ih =>
    rcases ih h with h | ⟨f, hf, hk⟩
    · rw [lookup?_put] at h
      by_cases hk : k.key = e.1.key
      · rw [if_pos hk] at h
        exact .inr ⟨e, List.mem_cons_self, hk.symm, Option.some.inj h⟩
      · rw [if_neg hk] at h
        exact .inl h
    · exact .inr ⟨f, List.mem_cons_of_mem _ hf, hk⟩

/-- Of what is put under a key the last counts, and it counts before what was there. -/
theorem lookup?_foldl_put_eq (entries : List (Value × Value)) (t : Table) (k : Value) :
    lookup? (entries.foldl (fun t e => put t e.1 e.2) t) k =
      (lookup? entries.reverse k).or (lookup? t k) := by
  induction entries generalizing t with
  | nil => rfl
  | cons e entries ih =>
    rw [List.foldl_cons, ih, lookup?_put, List.reverse_cons, lookup?_append, Option.or_assoc]
    by_cases h : e.1.key = k.key
    · simp [h]
    · simp [h, Ne.symm h]

theorem mem_keys_ofList {entries : List (Value × Value)} (h : k ∈ keys (ofList entries)) :
    k ∈ keys entries := by
  rcases mem_keys_foldl_put h with h | h
  · cases h
  · exact h

theorem exists_of_lookup?_ofList {entries : List (Value × Value)}
    (h : lookup? (ofList entries) k = some v) : ∃ e ∈ entries, e.1.key = k.key ∧ e.2 = v := by
  rcases lookup?_foldl_put h with h | h
  · cases h
  · exact h

theorem hasKey_put (t : Table) (k v k' : Value) :
    hasKey (put t k v) k' = (decide (k.key = k'.key) || hasKey t k') := by
  rw [hasKey_eq_isSome, lookup?_put, hasKey_eq_isSome t k']
  by_cases h : k'.key = k.key
  · simp [h]
  · simp [h, Ne.symm h]

theorem hasKey_foldl_put (entries : List (Value × Value)) (t : Table) (k : Value) :
    hasKey (entries.foldl (fun t e => put t e.1 e.2) t) k = (hasKey t k || hasKey entries k) := by
  induction entries generalizing t with
  | nil => simp [hasKey]
  | cons e entries ih =>
    rw [List.foldl_cons, ih, hasKey_put, hasKey_cons, Bool.or_comm (decide _), Bool.or_assoc]

theorem hasKey_ofList (entries : List (Value × Value)) (k : Value) :
    hasKey (ofList entries) k = hasKey entries k := by
  rw [ofList, hasKey_foldl_put]
  rfl

theorem lookup?_of_mem (ht : IsKeyed t) {e : Value × Value} (h : e ∈ t) :
    lookup? t e.1 = some e.2 := by
  induction t with
  | nil => cases h
  | cons f t ih =>
    obtain ⟨hf, ht⟩ := List.pairwise_cons.mp ht
    rw [lookup?_cons]
    rcases List.mem_cons.mp h with rfl | h
    · rw [if_pos rfl]
    · rw [if_neg (hf e h), ih ht h]

theorem mem_values_ofList {entries : List (Value × Value)} (h : v ∈ values (ofList entries)) :
    v ∈ values entries := by
  obtain ⟨e, he, rfl⟩ := List.mem_map.mp h
  obtain ⟨m, hm, _, hv⟩ := exists_of_lookup?_ofList (lookup?_of_mem (isKeyed_ofList entries) he)
  exact hv ▸ List.mem_map_of_mem hm

theorem put_of_new {k v : Value} (h : hasKey t k = false) : put t k v = t ++ [(k, v)] := by
  simp [put, h]

theorem foldl_put_eq_append (h : IsKeyed (t ++ t')) :
    t'.foldl (fun t e => put t e.1 e.2) t = t ++ t' := by
  induction t' generalizing t with
  | nil => simp
  | cons e t' ih =>
    have hnew : hasKey t e.1 = false := by
      rw [Bool.eq_false_iff, ne_eq, hasKey_iff]
      rintro ⟨f, hf, hk⟩
      exact (List.pairwise_append.mp h).2.2 f hf e List.mem_cons_self hk
    have happ : t ++ [(e.1, e.2)] ++ t' = t ++ e :: t' := by simp
    rw [List.foldl_cons, put_of_new hnew, ih (happ ▸ h), happ]

theorem ofList_eq_self (h : IsKeyed t) : ofList t = t := foldl_put_eq_append h

theorem IsKeyed.perm (h : IsKeyed t) (hp : t.Perm t') : IsKeyed t' :=
  hp.pairwise h fun hne => hne.symm

theorem hasKey_perm (hp : t.Perm t') (k : Value) : hasKey t k = hasKey t' k := hp.any_eq

theorem lookup?_perm (h : IsKeyed t) (hp : t.Perm t') (k : Value) : lookup? t k = lookup? t' k := by
  cases hl : lookup? t k with
  | none =>
    rw [lookup?_eq_none_iff] at hl
    exact (lookup?_eq_none_iff.mpr fun e he => hl e (hp.mem_iff.mpr he)).symm
  | some v =>
    obtain ⟨e, he, hk, rfl⟩ := mem_of_lookup?_eq_some hl
    rw [← lookup?_congr hk, lookup?_of_mem (h.perm hp) (hp.mem_iff.mp he)]

theorem lookup?_reverse (h : IsKeyed t) (k : Value) : lookup? t.reverse k = lookup? t k :=
  (lookup?_perm h t.reverse_perm.symm k).symm

/-- In a mapping overlaid with another one, what the other one has counts. -/
theorem lookup?_overlay (t : Table) (h : IsKeyed t') (k : Value) :
    lookup? (ofList (t ++ t')) k = (lookup? t' k).or (lookup? (ofList t) k) := by
  have hfold : ofList (t ++ t') = t'.foldl (fun t e => put t e.1 e.2) (ofList t) :=
    List.foldl_append
  rw [hfold, lookup?_foldl_put_eq, lookup?_reverse h]

/-- Whether an entry is among those that are picked tells whether its key is. -/
theorem lookup?_filter (h : IsKeyed t) (pick : Value × Value → Bool) {e : Value × Value}
    (he : e ∈ t) (hk : e.1.key = k.key) :
    lookup? (t.filter pick) k = if pick e then some e.2 else none := by
  rw [← lookup?_congr hk]
  split
  next hp => exact lookup?_of_mem (h.filter pick) (List.mem_filter.mpr ⟨he, hp⟩)
  next hp =>
    rw [lookup?_eq_none_iff]
    intro f hf hfe
    obtain ⟨hft, hpf⟩ := List.mem_filter.mp hf
    rw [eq_of_pairwise_ne h hft he hfe] at hpf
    exact hp hpf

end Lifecycle.Table

namespace Lifecycle

/-- A mapping's entries: each of them has a key of its own. -/
abbrev KeyedTable := {t : Table // t.IsKeyed}

def Value.IsMapping (v : Value) : Prop := ∃ id, ∃ t : KeyedTable, v = .dict id t.1

end Lifecycle
