import Lifecycle.Proofs.Declaration
import Lifecycle.Proofs.Expansion.Apart

namespace Lifecycle

namespace Table

variable {t : Table} {value first second : Value}

/-- No two entries have equal values. -/
def IsInvertible (t : Table) : Prop := t.Pairwise fun e f => e.2.key ≠ f.2.key

/-- The first entry whose value is an earlier one's already, and the entry that has it. -/
def FirstRepeat (t : Table) (value first second : Value) : Prop :=
  ∃ front held back rest, t = front ++ (first, held) :: back ++ (second, value) :: rest ∧
    held.key = value.key ∧ IsInvertible (front ++ (first, held) :: back)

theorem isInvertible_iff (ht : t.IsKeyed) :
    t.IsInvertible ↔ ¬ ∃ e ∈ t, ∃ f ∈ t, e.1.key ≠ f.1.key ∧ e.2.key = f.2.key := by
  constructor
  · rintro h ⟨e, he, f, hf, hne, hk⟩
    exact hne (congrArg (fun x => x.1.key) (eq_of_pairwise_ne h he hf hk))
  · intro h
    rw [IsInvertible, List.pairwise_iff_forall_sublist]
    intro e f hsub hk
    have hne : e.1.key ≠ f.1.key := List.pairwise_iff_forall_sublist.mp ht hsub
    exact h ⟨e, hsub.subset (by simp), f, hsub.subset (by simp), hne, hk⟩

/-- Either all values are new, or there is a first one that is not. -/
theorem isInvertible_or_firstRepeat {seen : Table} (h : seen.IsInvertible) (t : Table) :
    (seen ++ t).IsInvertible ∨ ∃ value first second, (seen ++ t).FirstRepeat value first second := by
  induction t generalizing seen with
  | nil => exact .inl (by rwa [List.append_nil])
  | cons e t ih =>
    by_cases hnew : ∀ o ∈ seen, o.2.key ≠ e.2.key
    · have hone : (seen ++ [e]).IsInvertible := by
        refine List.pairwise_append.mpr ⟨h, List.pairwise_singleton _ _, fun o hmem f hf => ?_⟩
        rw [List.mem_singleton.mp hf]
        exact hnew o hmem
      have happ : seen ++ [e] ++ t = seen ++ e :: t := by simp
      rw [← happ]
      exact ih hone
    · obtain ⟨first, held, hmem, hk⟩ : ∃ first held, (first, held) ∈ seen ∧ held.key = e.2.key := by
        simpa using hnew
      obtain ⟨front, back, rfl⟩ := List.append_of_mem hmem
      exact .inr ⟨e.2, first, e.1, front, held, back, t, rfl, hk, h⟩

theorem FirstRepeat.not_isInvertible (h : t.FirstRepeat value first second) :
    ¬ t.IsInvertible := by
  obtain ⟨front, held, back, rest, rfl, hk, _⟩ := h
  intro hinv
  exact (List.pairwise_append.mp hinv).2.2 (first, held) (by simp) _ List.mem_cons_self hk

/-- A value is repeated for the first time where two different keys have equal ones. -/
theorem exists_firstRepeat_iff (ht : t.IsKeyed) :
    (∃ value first second, t.FirstRepeat value first second) ↔
      ∃ e ∈ t, ∃ f ∈ t, e.1.key ≠ f.1.key ∧ e.2.key = f.2.key := by
  constructor
  · rintro ⟨value, first, second, h⟩
    by_contra hnone
    exact h.not_isInvertible ((isInvertible_iff ht).mpr hnone)
  · intro h
    rcases isInvertible_or_firstRepeat .nil t with hinv | hrepeat
    · exact absurd h ((isInvertible_iff ht).mp hinv)
    · exact hrepeat

end Table

/-- What a provider gives can be a map of primaries to alternates that can be keys too. A mapping is one
already. -/
structure Provider.IsMap (p : Provider) : Prop where
  primaries : ∀ k ∈ Table.keys p.alternates, k.isHashable = true
  alternates : ∀ v ∈ Table.values (Table.ofList p.alternates), v.isHashable = true
  keyed : ∀ items, p = .mapping items → Table.IsKeyed items

abbrev MapProvider := {p : Provider // p.IsMap}

namespace Domain

variable {p : Provider} {t : Table} {value first second v : Value}

section Loop

theorem needDistinctAlternates_of_firstRepeat (hh : ∀ e ∈ t, e.2.isHashable = true)
    (h : t.FirstRepeat value first second) :
    needDistinctAlternates [] t = .error (.sharedAlternate value first second) := by
  obtain ⟨front, held, back, rest, rfl, hk, ha⟩ := h
  have hfront : ∀ e ∈ front ++ (first, held) :: back, e.2.isHashable = true :=
    fun e he => hh e (List.mem_append_left _ he)
  have hvalue : value.isHashable = true :=
    hh (second, value) (List.mem_append_right _ List.mem_cons_self)
  have hfind : (front ++ (first, held) :: back).find? (fun o => o.2.key = value.key) =
      some (first, held) := by
    rw [List.find?_eq_some_iff_append]
    refine ⟨by simpa using hk, front, back, rfl, fun e he => ?_⟩
    have hne : e.2.key ≠ held.key := (List.pairwise_append.mp ha).2.2 e he _ List.mem_cons_self
    simpa [← hk] using hne
  have hpassed : needDistinctAlternates [] (front ++ (first, held) :: back ++ (second, value) :: rest) =
      needDistinctAlternates (front ++ (first, held) :: back) ((second, value) :: rest) :=
    needDistinctAlternates_append hfront (by simp) ha
  rw [hpassed, needDistinctAlternates, needHashable_eq_ok.mpr hvalue, ok_bind, hfind]

theorem needDistinctAlternates_eq_error_iff (hh : ∀ e ∈ t, e.2.isHashable = true) :
    needDistinctAlternates [] t = .error (.sharedAlternate value first second) ↔
      t.FirstRepeat value first second := by
  constructor
  · intro h
    rcases Table.isInvertible_or_firstRepeat .nil t with hinv | ⟨value', first', second', hrepeat⟩
    · have hok : needDistinctAlternates [] t = .ok () :=
        needDistinctAlternates_ok hh (by simp) hinv
      rw [hok] at h
      contradiction
    · rw [List.nil_append] at hrepeat
      rw [needDistinctAlternates_of_firstRepeat hh hrepeat] at h
      cases h
      exact hrepeat
  · exact needDistinctAlternates_of_firstRepeat hh

end Loop

section Map

theorem ofProvider_of_isMap (h : p.IsMap) : ofProvider p = do
    needDistinctAlternates [] (Table.ofList p.alternates)
    return .dual p (Table.ofList p.alternates) := by
  have hkeys : needAllHashable (Table.keys p.alternates) = .ok () :=
    needAllHashable_eq_ok.mpr h.primaries
  cases p with
  | enumeration e =>
    show (needAllHashable (Table.keys (Provider.enumeration e).alternates) >>= _) = _
    rw [hkeys]
    rfl
  | mapping items =>
    have hself : Table.ofList items = items := Table.ofList_eq_self (h.keyed items rfl)
    have hvalues : needAllHashable (Table.values items) = .ok () := by
      apply needAllHashable_eq_ok.mpr
      intro v hv
      apply h.alternates
      show v ∈ Table.values (Table.ofList items)
      rwa [hself]
    rw [ofProvider, hvalues, ok_bind, hkeys]
    rfl
  | custom name items types valid =>
    show (needAllHashable (Table.keys (Provider.custom name items types valid).alternates) >>= _) = _
    rw [hkeys]
    rfl

theorem isHashable_of_isMap (h : p.IsMap) :
    ∀ e ∈ Table.ofList p.alternates, e.2.isHashable = true :=
  fun _ he => h.alternates _ (List.mem_map_of_mem he)

theorem alternate_injective (ht : AreAlternates t) {s s' a a' : Value} (hs : s ∈ Table.keys t)
    (hs' : s' ∈ Table.keys t) (ha : alternate t s = .ok a) (ha' : alternate t s' = .ok a')
    (hk : a.same a' = true) : s = s' := by
  have hkey : s.key = s'.key := key_eq_of_alternate ht (alternate_eq_ok.mp ha).2
    (alternate_eq_ok.mp ha').2 (Value.same_iff.mp hk)
  exact eq_of_pairwise_ne (Table.isKeyed_iff.mp ht.keyed) hs hs' hkey

theorem alternate_of_mem (ht : AreAlternates t) {e : Value × Value} (he : e ∈ t) :
    alternate t e.1 = .ok e.2 :=
  alternate_eq_ok.mpr ⟨(ht.hashable e he).1, Table.lookup?_of_mem ht.keyed he⟩

theorem contains_dual_iff (ht : AreAlternates t) (hv : v.isHashable = true) :
    (dual p t).contains v = true ↔ (∃ s ∈ Table.keys t, s.same v = true) ∨
      ∃! s, s ∈ Table.keys t ∧ ∃ a, alternate t s = .ok a ∧ a.same v = true := by
  have hforms : (dual p t).contains v = true ↔
      (∃ e ∈ t, e.1.same v = true) ∨ ∃ e ∈ t, e.2.same v = true := by
    simp only [contains, hv, Bool.true_and, Bool.or_eq_true, Table.hasKey_iff, holds_iff,
      Table.values, List.mem_map, Value.same_iff]
    grind
  rw [hforms]
  constructor
  · rintro (⟨e, he, hk⟩ | ⟨e, he, hk⟩)
    · exact .inl ⟨e.1, List.mem_map_of_mem he, hk⟩
    -- primaries with equal alternates are one, so that no other has this one
    · refine .inr ⟨e.1, ⟨List.mem_map_of_mem he, e.2, alternate_of_mem ht he, hk⟩, ?_⟩
      rintro s ⟨hs, a, ha, hak⟩
      exact alternate_injective ht hs (List.mem_map_of_mem he) ha (alternate_of_mem ht he)
        (Value.same_trans hak ((Value.same_comm _ _).trans hk))
  · rintro (⟨s, hs, hk⟩ | ⟨s, ⟨hs, a, ha, hk⟩, _⟩)
    · obtain ⟨e, he, rfl⟩ := List.mem_map.mp hs
      exact .inl ⟨e, he, hk⟩
    · obtain ⟨e, he, rfl⟩ := List.mem_map.mp hs
      rw [alternate_of_mem ht he] at ha
      cases ha
      exact .inr ⟨e, he, hk⟩

end Map

section Members

/-- Members with equal values that can be keys are one member: the later name is an alias. -/
theorem pairwise_collect {kind : EnumKind} {members declared ms : List (String × Value)}
    {aliases as : List (String × String)}
    (h : Enumeration.collect kind members aliases declared = .ok (ms, as))
    (hm : (members.filter fun m => m.2.isHashable).Pairwise fun m n => m.2.key ≠ n.2.key) :
    (ms.filter fun m => m.2.isHashable).Pairwise fun m n => m.2.key ≠ n.2.key := by
  induction declared generalizing members aliases with
  | nil =>
    cases h
    exact hm
  | cons x declared ih =>
    rw [Enumeration.collect, bind_eq_ok] at h
    obtain ⟨v, _, h⟩ := h
    cases hh : Enumeration.holder? members v with
    | some found =>
      simp only [hh] at h
      exact ih h hm
    | none =>
      simp only [hh] at h
      apply ih h
      rw [List.filter_append]
      refine List.pairwise_append.mpr ⟨hm, List.Pairwise.filter _ (List.pairwise_singleton _ _), ?_⟩
      intro m hmem n hn hk
      obtain ⟨hmem, hmh⟩ := List.mem_filter.mp hmem
      obtain ⟨hn, _⟩ := List.mem_filter.mp hn
      rw [List.mem_singleton.mp hn] at hk
      -- a value that is equal to a member's would have made an alias
      have hno := List.find?_eq_none.mp hh m hmem
      simp [Value.same_iff.mpr hk, hmh] at hno

/-- No two primaries of a declared enumeration share an alternate, whatever its values are. -/
theorem ofProvider_declared {name : String} {kind : EnumKind} {declared : List (String × Value)}
    {c : Enumeration} (h : Enumeration.declare name kind declared = .ok c) :
    ofProvider (.enumeration c) ≠ .error (.sharedAlternate value first second) := by
  intro hshared
  have hmembers : (c.members.filter fun m => m.2.isHashable).Pairwise
      fun m n => m.2.key ≠ n.2.key := by
    simp only [Enumeration.declare, bind_eq_ok, pure_eq_ok] at h
    obtain ⟨_, _, ⟨ms, as⟩, hcollect, rfl⟩ := h
    exact pairwise_collect hcollect .nil
  rcases ofProvider_refused hshared with ⟨v, _, hv⟩ | ⟨e, f, hsub, ⟨heh, hfh⟩, hk, _⟩
  · obtain ⟨_, _, hf⟩ := needHashable_eq_error.mp hv
    cases hf
  have hkeyed := Table.isKeyed_ofList (Provider.enumeration c).alternates
  have he := Table.lookup?_of_mem hkeyed (hsub.subset List.mem_cons_self)
  have hf := Table.lookup?_of_mem hkeyed (hsub.subset (List.mem_cons_of_mem e List.mem_cons_self))
  obtain ⟨m, hm, hme, hmv⟩ := exists_member he
  obtain ⟨n, hn, hnf, hnv⟩ := exists_member hf
  -- a value that can be a key is the value of one member
  have hmn : m = n := by
    apply eq_of_pairwise_ne hmembers
    · exact List.mem_filter.mpr ⟨hm, hmv.symm ▸ heh⟩
    · exact List.mem_filter.mpr ⟨hn, hnv.symm ▸ hfh⟩
    · rw [hmv, hnv, hk]
  have hne : e.1.key ≠ f.1.key := List.pairwise_iff_forall_sublist.mp hkeyed hsub
  exact hne (by rw [← hme, ← hnf, hmn])

end Members

/-- A provider whose map has alternates that can be keys is refused where two primaries have equal
ones, and then for the first that repeats one, with the one before it that has it. Else primaries and
alternates are one to one, and a value is in the domain that equals a primary or the alternate of exactly
one. A declared enumeration is never refused so. -/
theorem alternates_unique :
    (∀ p : MapProvider,
      (∀ value first second, ofProvider p.1 = .error (.sharedAlternate value first second) ↔
        (Table.ofList p.1.alternates).FirstRepeat value first second) ∧
      ((∃ value first second, ofProvider p.1 = .error (.sharedAlternate value first second)) ↔
        ∃ e ∈ Table.ofList p.1.alternates, ∃ f ∈ Table.ofList p.1.alternates,
          e.1.key ≠ f.1.key ∧ e.2.key = f.2.key) ∧
      ((∃ value first second, ofProvider p.1 = .error (.sharedAlternate value first second)) ∨
        ∃ t, ofProvider p.1 = .ok (.dual p.1 t) ∧
          (∀ s ∈ (dual p.1 t).states, ∃ a, alternate t s = .ok a) ∧
          (∀ s ∈ (dual p.1 t).states, ∀ s' ∈ (dual p.1 t).states, ∀ a a', alternate t s = .ok a →
            alternate t s' = .ok a' → a.same a' = true → s = s') ∧
          ∀ v : Value, v.isHashable = true → ((dual p.1 t).contains v = true ↔
            (∃ s ∈ (dual p.1 t).states, s.same v = true) ∨
              ∃! s, s ∈ (dual p.1 t).states ∧ ∃ a, alternate t s = .ok a ∧ a.same v = true))) ∧
    ∀ name kind declared c, Enumeration.declare name kind declared = .ok c →
      ∀ value first second,
        ofProvider (.enumeration c) ≠ .error (.sharedAlternate value first second) := by
  refine ⟨fun ⟨p, hp⟩ => ?_, fun _ _ _ _ h _ _ _ => ofProvider_declared h⟩
  have hh := isHashable_of_isMap hp
  have hkeyed := Table.isKeyed_ofList p.alternates
  have hrefused : ∀ value first second,
      ofProvider p = .error (.sharedAlternate value first second) ↔
        (Table.ofList p.alternates).FirstRepeat value first second := by
    intro value first second
    rw [ofProvider_of_isMap hp, bind_eq_error, ← needDistinctAlternates_eq_error_iff hh]
    simp
  refine ⟨hrefused, ?_, ?_⟩
  · simp only [hrefused]
    exact Table.exists_firstRepeat_iff hkeyed
  · rcases Table.isInvertible_or_firstRepeat .nil (Table.ofList p.alternates) with
      hinv | ⟨value, first, second, hrepeat⟩
    · right
      have hd : ofProvider p = .ok (.dual p (Table.ofList p.alternates)) := by
        rw [ofProvider_of_isMap hp, needDistinctAlternates_ok hh (by simp) hinv]
        rfl
      obtain ⟨_, ht⟩ := areAlternates_of_ofProvider hd
      refine ⟨_, hd, fun s hs => ?_, fun s hs s' hs' a a' => alternate_injective ht hs hs',
        fun v hv => contains_dual_iff ht hv⟩
      obtain ⟨e, he, rfl⟩ := List.mem_map.mp hs
      exact ⟨e.2, alternate_of_mem ht he⟩
    · exact .inl ⟨value, first, second, (hrefused value first second).mpr hrepeat⟩

/-- The third alternate equals the first one in another form, as the fourth does after it. Without
these two a truth value is in the domain for the number it equals, and a member of the same values
comes to an alias. -/
theorem alternates_unique_forms :
    let apart : Table := [(.text "created", .int 0), (.text "paid", .int 1)]
    let items : Table := apart ++ [(.text "sent", .bool false), (.text "kept", .int 0)]
    let custom : Provider := .custom "States" apart ["str"] []
    (Provider.mapping items).IsMap ∧
      ofProvider (.mapping items) =
        .error (.sharedAlternate (.bool false) (.text "created") (.text "sent")) ∧
      custom.IsMap ∧
      (∃ t, ofProvider custom = .ok (.dual custom t) ∧
        ∃! s, s ∈ Table.keys t ∧ ∃ a, alternate t s = .ok a ∧ a.same (.bool true) = true) ∧
      ∃ c, Enumeration.declare "Status" .plain [("PAID", .int 1), ("SENT", .bool true)] = .ok c ∧
        ofProvider (.enumeration c) ≠ .error (.sharedAlternate (.bool true)
          (.member c "PAID" (.int 1)) (.member c "SENT" (.bool true))) := by
  intro apart items custom
  have hmap : (Provider.mapping items).IsMap := by
    refine ⟨by decide, by decide, fun _ h => ?_⟩
    cases h
    unfold Table.IsKeyed
    decide
  have hcustom : custom.IsMap :=
    ⟨by decide, by decide, fun _ h => Provider.noConfusion h⟩
  have hdeclared : Enumeration.declare "Status" .plain [("PAID", .int 1), ("SENT", .bool true)] =
      .ok (.mk "Status" .plain [("PAID", .int 1)] [("SENT", "PAID")]) := rfl
  refine ⟨hmap, ?_, hcustom, ?_, _, hdeclared, alternates_unique.2 _ _ _ _ hdeclared _ _ _⟩
  · apply ((alternates_unique.1 ⟨_, hmap⟩).1 _ _ _).mpr
    refine ⟨[], .int 0, [(.text "paid", .int 1)], [(.text "kept", .int 0)], rfl, rfl, ?_⟩
    unfold Table.IsInvertible
    decide
  · have hok : ofProvider custom = .ok (.dual custom apart) := rfl
    rcases (alternates_unique.1 ⟨_, hcustom⟩).2.2 with ⟨_, _, _, hno⟩ | ⟨t, ht, _, _, hcontains⟩
    · rw [hok] at hno
      contradiction
    refine ⟨t, ht, ?_⟩
    rw [hok] at ht
    cases ht
    have hin : (dual custom apart).contains (.bool true) = true := rfl
    have hno : ¬ ∃ s ∈ (dual custom apart).states, s.same (.bool true) = true := by decide
    exact ((hcontains (.bool true) rfl).mp hin).resolve_left hno

end Domain

end Lifecycle
