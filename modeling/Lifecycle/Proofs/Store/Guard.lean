import Mathlib.Data.List.Nodup
import Lifecycle.Proofs.Store.Apply

namespace Lifecycle

/-- A table whose rows are told apart by a key, and whose lock column, another one, has whole numbers or
nothing. -/
structure Relation.IsGuarded (t : Relation) (key lock : String) : Prop where
  apart : key ≠ lock
  names : ∀ r ∈ t.rows, r.map (·.1) = t.columns.map (·.name)
  keyed : (t.rows.map (Row.id key)).Nodup
  kept : ∀ r ∈ t.rows, t.conformTo key (r.cell key) = r.cell key
  lockColumn : ∃ c, t.column? lock = some c ∧ c.type = .int
  versions : ∀ r ∈ t.rows, (r.cell lock).IsVersion

/-- The tables that a lock column guards. -/
abbrev GuardedTable (key lock : String) := {t : Relation // t.IsGuarded key lock}

namespace Changeset

def Leaves (cs : Changeset) (column : String) : Prop :=
  ∀ pending, cs.changes.toTable = .ok pending → Table.lookup? pending (.text column) = none

theorem leaves_of_dict {cs : Changeset} {column : String} {id : Nat} {items : Table}
    (hd : cs.changes = .dict id items) (hl : Table.lookup? items (.text column) = none) :
    cs.Leaves column := by
  intro pending hp
  rw [hd] at hp
  cases hp
  exact hl

/-- A column's cell with the pending changes put over it, as the table keeps them. -/
def overlay (t : Relation) (cs : Changeset) (column : String) (c : Cell) : Cell :=
  match cs.changes.toTable with
  | .ok pending => ((Table.cellFor? pending column).map (t.conformTo column)).getD c
  | .error _ => c

theorem overlay_of_leaves {cs : Changeset} {column : String} (h : cs.Leaves column) (t : Relation)
    (c : Cell) : cs.overlay t column c = c := by
  unfold overlay
  cases hp : cs.changes.toTable with
  | error e => rfl
  | ok pending =>
    simp only [Table.cellFor?, h pending hp]
    rfl

end Changeset

namespace Relation

variable {t after : Relation} {key lock column : String} {r row : Row} {c : Cell}

theorem conformTo_null (t : Relation) (column : String) : t.conformTo column .null = .null := by
  unfold conformTo
  split
  · exact Cell.conform_null _
  · rfl

theorem conformTo_int (h : ∃ c, t.column? lock = some c ∧ c.type = .int) (n : Int) :
    t.conformTo lock (.int n) = .int n := by
  obtain ⟨c, hc, ht⟩ := h
  simp only [conformTo, hc, ht]
  rfl

/-- A condition on what a column keeps holds of rows with an equal cell there. -/
theorem key_eq_of_holdsFor (hc : t.conformTo column c = c) (h : t.holdsFor r ⟨column, c⟩ = true) :
    (r.cell column).toValue.key = c.toValue.key := by
  unfold holdsFor at h
  split at h
  -- nothing is compared as absent, anything else as the column makes it
  next hn =>
    change c = .null at hn
    subst hn
    have he : r.cell column = .null := by simpa using h
    rw [he]
  next =>
    change (t.canHold column (t.conformTo column c) &&
      (r.cell column).equals (t.conformTo column c)) = true at h
    rw [hc, Bool.and_eq_true] at h
    have hs := h.2
    simp only [Cell.equals, Bool.and_eq_true] at hs
    exact Value.same_iff.mp hs.2

theorem IsGuarded.eq_of_id (hg : t.IsGuarded key lock) {s : Row} (hr : r ∈ t.rows) (hs : s ∈ t.rows)
    (h : r.id key = s.id key) : r = s :=
  List.inj_on_of_nodup_map hg.keyed hr hs h

end Relation

end Lifecycle
