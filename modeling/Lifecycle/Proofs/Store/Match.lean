import Lifecycle.Proofs.Store.Guard

namespace Lifecycle

namespace Relation

variable {t after : Relation} {column : String} {r : Row} {v : Value} {c : Cell}

/-- A row has a value in a column, as the store compares them: what is there equals what the column
makes of the value. An absent value is what an empty cell has. -/
def Has (t : Relation) (r : Row) (column : String) (v : Value) : Prop :=
  ∃ c, Cell.ofValue v = .ok c ∧
    (r.cell column).toValue.key = (t.conformTo column c).toValue.key ∧
      (v = .none ∨ t.canHold column (t.conformTo column c) = true)

/-- A row still has what the record of a changeset had in the key, and in the lock column if there
is one. -/
def IsCurrent (t : Relation) (cs : Changeset) (key : String) (lock : Option String) (r : Row) :
    Prop :=
  ∀ column ∈ key :: lock.toList, ∃ v, cs.getOriginal (.text column) = .ok v ∧ t.Has r column v

theorem conformTo_ne_null (t : Relation) (column : String) (h : c ≠ .null) :
    t.conformTo column c ≠ .null := by
  unfold conformTo
  split
  · exact Cell.conform_ne_null _ h
  · exact h

theorem holdsFor_iff_has (h : Cell.ofValue v = .ok c) :
    t.holdsFor r ⟨column, c⟩ = true ↔ t.Has r column v := by
  have hhas : t.Has r column v ↔ (r.cell column).toValue.key = (t.conformTo column c).toValue.key ∧
      (v = .none ∨ t.canHold column (t.conformTo column c) = true) := by
    simp [Has, h]
  rw [hhas]
  -- an absent value is asked for by itself, as none in the store is equal to it
  by_cases hc : c = .null
  · have hv : v = .none := Cell.eq_none_of_ofValue (hc ▸ h)
    rw [hc, t.conformTo_null, Cell.toValue, Cell.toValue_key_eq_none]
    simp [holdsFor, hv]
  · have hv : v ≠ .none := by
      rintro rfl
      exact hc (Except.ok.inj h).symm
    have hconform := t.conformTo_ne_null column hc
    have hcell : (r.cell column).toValue.key = (t.conformTo column c).toValue.key →
        r.cell column ≠ .null := by
      intro hk hn
      rw [hn] at hk
      exact hconform (Cell.toValue_key_eq_none.mp hk.symm)
    have hholds : t.holdsFor r ⟨column, c⟩ = (t.canHold column (t.conformTo column c) &&
        (r.cell column).equals (t.conformTo column c)) := by
      unfold holdsFor
      split
      next hn => exact absurd hn hc
      next => rfl
    rw [hholds, Bool.and_eq_true, Cell.equals, Bool.and_eq_true, Bool.and_eq_true,
      decide_eq_true_eq, decide_eq_true_eq, Value.same_iff]
    constructor
    · rintro ⟨hcan, _, hkey⟩
      exact ⟨hkey, .inr hcan⟩
    · rintro ⟨hkey, hcan⟩
      exact ⟨hcan.resolve_left hv, ⟨hcell hkey, hconform⟩, hkey⟩

end Relation

namespace Write

variable {t after : Relation} {cs : Changeset} {key : String} {lock : Option String} {w : Write}
  {r : Row} {n : Nat}

/-- A write is for the rows that still are as a changeset's record was read. It sets the pending
changes, and under a lock the version over them. -/
structure IsOf (w : Write) (cs : Changeset) (key : String) (lock : Option String) : Prop where
  keyColumn : w.key = key
  keyValue : cs.getOriginal (.text key) = .ok w.keyValue
  guard : w.guard.map (·.1) = lock
  current : ∀ column current, w.guard = some (column, current) →
    cs.getOriginal (.text column) = .ok current ∧ nextVersion current = .ok w.version
  values : ∃ pending, cs.changes.toTable = .ok pending ∧
    w.values = lock.elim pending fun column => Table.put pending (.text column) w.version
  version : lock = none → w.version = .none

theorem isOf_of_ofChangeset (h : ofChangeset t cs key lock = .ok w) : w.IsOf cs key lock := by
  simp only [ofChangeset, bind_eq_ok] at h
  obtain ⟨keyValue, hk, pending, hp, _, _, h⟩ := h
  cases lock with
  | none =>
    cases h
    exact ⟨rfl, hk, rfl, nofun, ⟨pending, hp, rfl⟩, fun _ => rfl⟩
  | some column =>
    simp only [bind_eq_ok, pure_eq_ok] at h
    obtain ⟨current, hc, version, hv, _, _, rfl⟩ := h
    refine ⟨rfl, hk, rfl, ?_, ⟨pending, hp, rfl⟩, nofun⟩
    intro column' current' hg
    cases hg
    exact ⟨hc, hv⟩

/-- The conditions of a write are that a row still is as it was read. -/
theorem selects_iff_isCurrent {conditions : List Condition} (hw : w.IsOf cs key lock)
    (h : w.conditions = .ok conditions) :
    t.selects conditions r = true ↔ t.IsCurrent cs key lock r := by
  have hone : ∀ {column v c}, cs.getOriginal (.text column) = .ok v → Cell.ofValue v = .ok c →
      (t.holdsFor r ⟨column, c⟩ = true ↔
        ∃ v, cs.getOriginal (.text column) = .ok v ∧ t.Has r column v) := by
    intro column v c hv hc
    rw [t.holdsFor_iff_has hc]
    simp [hv]
  obtain ⟨hcolumn, hkeyValue, hguard, hcurrent, _, _⟩ := hw
  subst hcolumn hguard
  simp only [Write.conditions, bind_eq_ok] at h
  obtain ⟨kc, hkc, h⟩ := h
  have hkey := hone hkeyValue hkc
  cases hg : w.guard with
  | none =>
    rw [hg] at h
    cases h
    simp [Relation.selects, Relation.IsCurrent, hkey]
  | some g =>
    rw [hg] at h
    simp only [bind_eq_ok, pure_eq_ok] at h
    obtain ⟨lc, hlc, rfl⟩ := h
    have hlock := hone (hcurrent g.1 g.2 hg).1 hlc
    simp [Relation.selects, Relation.IsCurrent, hkey, hlock]

theorem run_eq_ok (h : w.run t = .ok (after, n)) : ∃ conditions, w.conditions = .ok conditions ∧
    n = t.rows.countP (t.selects conditions) ∧ (n = 0 → after = t) ∧
      (w.values = [] → after = t) := by
  unfold run at h
  cases he : w.values.isEmpty with
  | true =>
    simp only [he, if_true, bind_eq_ok, pure_eq_ok, Prod.mk.injEq] at h
    obtain ⟨conditions, hc, rfl, rfl⟩ := h
    exact ⟨conditions, hc, rfl, fun _ => rfl, fun _ => rfl⟩
  | false =>
    simp only [he, Bool.false_eq_true, if_false, bind_eq_ok] at h
    obtain ⟨cells, _, conditions, hc, h⟩ := h
    have hne : w.values ≠ [] := by simpa using he
    obtain ⟨hn, hzero, _⟩ := Relation.update_eq_ok h
    exact ⟨conditions, hc, hn, hzero, fun hv => absurd hv hne⟩

end Write

namespace Changeset

variable {t after : Relation} {cs : Changeset} {key : String} {lock : Option String} {v : Value}
  {world world' : World}

/-- What a write that succeeds does, by the conditions and the cells that it sends. -/
theorem apply_written (h : (cs.apply t key lock).run.run world = (.ok (after, v), world')) :
    ∃ (w : Write) (conditions : List Condition), w.IsOf cs key lock ∧
      w.conditions = .ok conditions ∧ w.version = v ∧
      (∃ r ∈ t.rows, t.selects conditions r = true) ∧
      (w.values = [] ∧ after = t ∨ w.values ≠ [] ∧ ∃ cells, Write.cells t w.values = .ok cells ∧
        after = { t with rows := t.inOrder (t.rows.map (t.updated conditions cells)) }) := by
  obtain ⟨_, w, hw, hc, hv⟩ := apply_eq_ok h
  obtain ⟨n, hr, hn⟩ := Write.commit_eq_ok hc
  obtain ⟨conditions, hcond, hcount, _, hnothing⟩ := Write.run_eq_ok hr
  have hfound : ∃ r ∈ t.rows, t.selects conditions r = true := by
    rw [hcount] at hn
    exact List.countP_pos_iff.mp (Nat.pos_of_ne_zero hn)
  refine ⟨w, conditions, Write.isOf_of_ofChangeset hw, hcond, hv, hfound, ?_⟩
  cases he : w.values with
  | nil => exact .inl ⟨rfl, hnothing he⟩
  | cons e values =>
    unfold Write.run at hr
    simp only [he, List.isEmpty_cons, Bool.false_eq_true, if_false, bind_eq_ok] at hr
    obtain ⟨cells, hcells, conditions', hcond', hr⟩ := hr
    rw [hcond] at hcond'
    cases hcond'
    exact .inr ⟨nofun, cells, hcells, (Relation.update_eq_ok hr).2.2 hn⟩

end Changeset

end Lifecycle
