import Lifecycle.Proofs.Store.Row
import Lifecycle.Proofs.Table

namespace Lifecycle

/-- What pending values put into a column, before the column makes its own of it. -/
def Table.cellFor? (values : Table) (column : String) : Option Cell :=
  (Table.lookup? values (.text column)).bind fun v => (Cell.ofValue v).toOption

namespace Relation

variable {t after : Relation} {column : String}

theorem column?_isSome_iff :
    (t.column? column).isSome = true ↔ column ∈ t.columns.map (·.name) := by
  unfold column?
  simp

theorem inOrder_perm (t : Relation) (rows : List Row) : (t.inOrder rows).Perm rows := by
  unfold inOrder
  split
  · exact List.mergeSort_perm _ _
  · exact .refl _

/-- A row after an update: overwritten if it is selected. -/
def updated (t : Relation) (conditions : List Condition) (cells : List (String × Cell)) (r : Row) :
    Row :=
  if t.selects conditions r then r.overwrite (cells.map fun (n, c) => (n, t.conformTo n c)) else r

theorem update_eq_ok {conditions : List Condition} {cells : List (String × Cell)} {n : Nat}
    (h : t.update conditions cells = .ok (after, n)) :
    n = t.rows.countP (t.selects conditions) ∧ (n = 0 → after = t) ∧
      (n ≠ 0 → after = { t with rows := t.inOrder (t.rows.map (t.updated conditions cells)) }) := by
  unfold update at h
  by_cases hc : t.rows.countP (t.selects conditions) = 0
  · simp only [hc, if_true] at h
    cases h
    exact ⟨hc.symm, fun _ => rfl, fun hn => absurd rfl hn⟩
  · simp only [hc, if_false] at h
    split at h
    · cases h
      exact ⟨rfl, fun hn => absurd hn hc, fun _ => rfl⟩
    · cases h

end Relation

namespace Write

variable {t after : Relation} {values : Table} {column : String}

theorem field?_columnNames {named : List (String × Value)} (h : columnNames values = .ok named)
    (column : String) : field? column named = Table.lookup? values (.text column) := by
  simp only [columnNames, bind_eq_ok, pure_eq_ok] at h
  obtain ⟨named', hn, _, _, hnamed⟩ := h
  rw [hnamed] at hn
  clear hnamed
  -- a name that is a member's is the text that it is, so it is found as that text
  induction values generalizing named with
  | nil =>
    cases hn
    rfl
  | cons e values ih =>
    obtain ⟨f, rest, hf, hrest, rfl⟩ := mapM_cons_eq_ok.mp hn
    split at hf
    next s hs =>
      cases hf
      have hk : e.1.key = (Value.text column).key ↔ s = column := by
        rw [Value.key_of_text? hs, Value.key]
        simp [Key.leaf]
      rw [field?_cons, Table.lookup?_cons, ih hrest]
      by_cases hc : s = column
      · rw [if_pos hc, if_pos (hk.mpr hc)]
      · rw [if_neg hc, if_neg fun he => hc (hk.mp he)]
    next => cases hf

theorem field?_mapM_ofValue {named : List (String × Value)} {columns : List Column}
    {cells : List (String × Cell)}
    (h : ((columns.filterMap fun c => (field? c.name named).map fun v => (c.name, v)).mapM
      fun (n, v) => (return (n, ← Cell.ofValue v) : Except Fault (String × Cell))) = .ok cells)
    (column : String) :
    field? column cells = if column ∈ columns.map (·.name) then
      (field? column named).bind fun v => (Cell.ofValue v).toOption else none := by
  -- on the columns: each that something is given for makes a cell, in their order
  induction columns generalizing cells with
  | nil =>
    cases h
    rfl
  | cons c columns ih =>
    rw [List.filterMap_cons] at h
    cases hc : field? c.name named with
    | none =>
      simp only [hc, Option.map_none] at h
      rw [ih h, List.map_cons]
      by_cases he : column = c.name
      · simp [he, hc]
      · simp [he]
    | some v =>
      simp only [hc, Option.map_some] at h
      obtain ⟨f, rest, hf, hrest, rfl⟩ := mapM_cons_eq_ok.mp h
      simp only [bind_eq_ok, pure_eq_ok] at hf
      obtain ⟨cell, hcell, rfl⟩ := hf
      rw [field?_cons, ih hrest, List.map_cons]
      by_cases he : column = c.name
      · simp [he, hc, hcell, Except.toOption]
      · simp [he, Ne.symm he]

theorem field?_of_column?_isNone {named : List (String × Value)}
    (h : (named.any fun f => (t.column? f.1).isNone) = false) (column : String)
    (hc : column ∉ t.columns.map (·.name)) : field? column named = none := by
  rw [← Option.not_isSome_iff_eq_none, field?_isSome_iff]
  intro hm
  obtain ⟨f, hf, rfl⟩ := List.mem_map.mp hm
  have hs : (t.column? f.1).isNone ≠ true := List.any_eq_false.mp h f hf
  rw [← Relation.column?_isSome_iff, Option.not_isSome_iff_eq_none] at hc
  exact hs (Option.isNone_iff_eq_none.mpr hc)

/-- A write puts into the columns of the table what its values are for them, all of which the store
takes, and has no values for others. -/
theorem field?_cells {cs : List (String × Cell)} (h : cells t values = .ok cs) (column : String) :
    field? column cs = values.cellFor? column ∧
      ∀ v, Table.lookup? values (.text column) = some v →
        column ∈ t.columns.map (·.name) ∧ ∃ c, Cell.ofValue v = .ok c := by
  simp only [cells, bind_eq_ok] at h
  obtain ⟨named, hn, h⟩ := h
  cases hany : named.any fun f => (t.column? f.1).isNone with
  | true => simp [hany] at h
  | false =>
    simp only [hany, Bool.false_eq_true, if_false] at h
    have hnone := field?_of_column?_isNone hany column
    rw [Table.cellFor?, ← field?_columnNames hn column, field?_mapM_ofValue h column]
    by_cases hc : column ∈ t.columns.map (·.name)
    · refine ⟨if_pos hc, fun v hv => ⟨hc, ?_⟩⟩
      obtain ⟨c, hct, rfl⟩ := List.mem_map.mp hc
      have hm : (c.name, v) ∈
          t.columns.filterMap fun c => (field? c.name named).map fun v => (c.name, v) :=
        List.mem_filterMap.mpr ⟨c, hct, by rw [hv]; rfl⟩
      obtain ⟨f, hf⟩ := exists_of_mapM_eq_ok h hm
      obtain ⟨cell, hcell, _⟩ := bind_eq_ok.mp hf
      exact ⟨cell, hcell⟩
    · rw [if_neg hc, hnone hc]
      exact ⟨rfl, fun v hv => by cases hv⟩

end Write

end Lifecycle
