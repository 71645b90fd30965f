import Lifecycle.Proofs.Store.Match

namespace Lifecycle

/-- What a write under a lock makes of the rows: the one with the key goes up by one version and
takes the pending changes, the others stay. -/
structure IsWrite (key lock : String) (row : Row) (cs : Changeset) (t after : Relation)
    (f : Row → Row) : Prop where
  columns : after.columns = t.columns
  rows : after.rows.Perm (t.rows.map f)
  found : ∃ r ∈ t.rows, r.id key = row.id key
  names : ∀ r ∈ t.rows, (f r).map (·.1) = r.map (·.1)
  others : ∀ r ∈ t.rows, r.id key ≠ row.id key → f r = r
  current : ∀ r ∈ t.rows, r.id key = row.id key → r.cell lock = row.cell lock
  version : ∀ r ∈ t.rows, r.id key = row.id key → (f r).cell lock = .int ((r.cell lock).version + 1)
  contents : ∀ r ∈ t.rows, r.id key = row.id key → ∀ column, column ≠ lock →
    (f r).cell column = cs.overlay t column (r.cell column)

namespace Relation

variable {t : Relation} {key lock column : String} {r : Row} {conditions : List Condition}
  {cells : List (String × Cell)}

theorem names_updated (t : Relation) (conditions : List Condition) (cells : List (String × Cell))
    (r : Row) : (t.updated conditions cells r).map (·.1) = r.map (·.1) := by
  unfold updated
  split
  · exact Row.names_overwrite r _
  · rfl

theorem cell_updated (hs : t.selects conditions r = true) (hn : column ∈ r.map (·.1)) :
    (t.updated conditions cells r).cell column =
      ((field? column cells).map (t.conformTo column)).getD (r.cell column) := by
  unfold updated
  rw [if_pos hs, Row.cell_overwrite hn, field?_map t.conformTo]

theorem cell_updated_of_cells {values : Table} (hr : r.map (·.1) = t.columns.map (·.name))
    (hcells : Write.cells t values = .ok cells) (hs : t.selects conditions r = true)
    (column : String) : (t.updated conditions cells r).cell column =
      ((Table.cellFor? values column).map (t.conformTo column)).getD (r.cell column) := by
  obtain ⟨hf, hv⟩ := Write.field?_cells hcells column
  by_cases hc : column ∈ r.map (·.1)
  · rw [cell_updated hs hc, hf]
  · have hn : Table.lookup? values (.text column) = none := by
      rw [Option.eq_none_iff_forall_ne_some]
      intro v hl
      rw [hr] at hc
      exact hc (hv v hl).1
    rw [Table.cellFor?, hn, Row.cell_of_not_mem hc, Row.cell_of_not_mem (by rwa [names_updated])]
    rfl

theorem kept_of_isVersion (hg : t.IsGuarded key lock) {c : Cell} (hc : c.IsVersion) :
    t.conformTo lock c = c := by
  rcases hc with rfl | ⟨n, rfl⟩
  · exact t.conformTo_null lock
  · exact conformTo_int hg.lockColumn n

theorem selects_pair (kc lc : Cell) (r : Row) : t.selects [⟨key, kc⟩, ⟨lock, lc⟩] r = true ↔
    t.holdsFor r ⟨key, kc⟩ = true ∧ t.holdsFor r ⟨lock, lc⟩ = true := by
  simp [selects]

theorem id_eq_of_selects {row : Row} {lc : Cell}
    (hkept : t.conformTo key (row.cell key) = row.cell key)
    (h : t.selects [⟨key, row.cell key⟩, ⟨lock, lc⟩] r = true) : r.id key = row.id key :=
  key_eq_of_holdsFor hkept ((selects_pair _ _ r).mp h).1

theorem version_eq_of_selects {kc lc : Cell} (hg : t.IsGuarded key lock) (hr : r ∈ t.rows)
    (hver : lc.IsVersion) (h : t.selects [⟨key, kc⟩, ⟨lock, lc⟩] r = true) :
    r.cell lock = lc := by
  have hk := key_eq_of_holdsFor (kept_of_isVersion hg hver) ((selects_pair _ _ r).mp h).2
  exact Cell.eq_of_key_eq (hg.versions r hr) hver hk

end Relation

namespace Changeset

variable {t after : Relation} {cs : Changeset} {key lock : String} {v : Value}
  {world world' : World}

theorem apply_locked (h : (cs.apply t key (some lock)).run.run world = (.ok (after, v), world')) :
    ∃ keyValue current kc lc pending cells,
      originalOf cs.data (.text key) = .ok keyValue ∧ Cell.ofValue keyValue = .ok kc ∧
      originalOf cs.data (.text lock) = .ok current ∧ Cell.ofValue current = .ok lc ∧
      cs.changes.toTable = .ok pending ∧ nextVersion current = .ok v ∧
      Write.cells t (Table.put pending (.text lock) v) = .ok cells ∧
      after = { t with
        rows := t.inOrder (t.rows.map (t.updated [⟨key, kc⟩, ⟨lock, lc⟩] cells)) } ∧
      ∃ r ∈ t.rows, t.selects [⟨key, kc⟩, ⟨lock, lc⟩] r = true := by
  obtain ⟨w, conditions, hw, hcond, rfl, hs, hcase⟩ := apply_written h
  obtain ⟨pending, hp, hvalues⟩ := hw.values
  obtain ⟨⟨column, current⟩, hg, rfl⟩ := Option.map_eq_some_iff.mp hw.guard
  obtain ⟨hl, hv⟩ := hw.current _ _ hg
  simp only [Write.conditions, hg, hw.keyColumn, bind_eq_ok, pure_eq_ok] at hcond
  obtain ⟨kc, hkc, lc, hlc, rfl⟩ := hcond
  rw [hvalues, Option.elim_some] at hcase
  rcases hcase with ⟨hnil, _⟩ | ⟨_, cells, hcells, ha⟩
  · -- there is always something to set, the version
    have hput := Table.lookup?_put pending (.text column) w.version (.text column)
    rw [hnil, if_pos rfl] at hput
    cases hput
  · exact ⟨w.keyValue, current, kc, lc, pending, cells, hw.keyValue, hkc, hl, hlc, hp, hv, hcells,
      ha, hs⟩

theorem lookup?_put_text (pending : Table) (lock column : String) (v : Value) :
    Table.lookup? (Table.put pending (.text lock) v) (.text column) =
      if column = lock then some v else Table.lookup? pending (.text column) := by
  have hk : (Value.text column).key = (Value.text lock).key ↔ column = lock := by
    simp [Value.key, Key.leaf]
  rw [Table.lookup?_put]
  by_cases hc : column = lock
  · rw [if_pos (hk.mpr hc), if_pos hc]
  · rw [if_neg fun h => hc (hk.mp h), if_neg hc]

theorem cellFor?_put (pending : Table) (lock column : String) (v : Value) :
    Table.cellFor? (Table.put pending (.text lock) v) column =
      if column = lock then (Cell.ofValue v).toOption else Table.cellFor? pending column := by
  unfold Table.cellFor?
  rw [lookup?_put_text]
  by_cases hc : column = lock
  · rw [if_pos hc, if_pos hc]
    rfl
  · rw [if_neg hc, if_neg hc]

theorem ofValue_of_apply {column : String} {pending : Table} {x : Value} (hne : column ≠ lock)
    (hp : cs.changes.toTable = .ok pending) (hx : Table.lookup? pending (.text column) = some x)
    (h : (cs.apply t key (some lock)).run.run world = (.ok (after, v), world')) :
    ∃ c, Cell.ofValue x = .ok c := by
  obtain ⟨_, _, _, _, pending', cells, _, _, _, _, hp', _, hcells, _⟩ := apply_locked h
  rw [hp] at hp'
  cases hp'
  obtain ⟨_, hsent⟩ := Write.field?_cells hcells column
  exact (hsent x (by rw [lookup?_put_text, if_neg hne, hx])).2

/-- A write under a lock finds the row as it was read, and changes nothing else. -/
theorem isWrite_of_apply {row : Row} (hg : t.IsGuarded key lock)
    (hkey : row.GivenBy cs.data key) (hlock : row.GivenBy cs.data lock)
    (hkept : t.conformTo key (row.cell key) = row.cell key) (hver : (row.cell lock).IsVersion)
    (h : (cs.apply t key (some lock)).run.run world = (.ok (after, v), world')) :
    v = .int ((row.cell lock).version + 1) ∧ ∃ f, IsWrite key lock row cs t after f := by
  obtain ⟨_, current, kc, lc, pending, cells, hk, hkc, hl, hlc, hp, hv, hcells, rfl, s, hst, hs⟩ :=
    apply_locked h
  cases hkey _ _ hk hkc
  cases hlock _ _ hl hlc
  have hnext := Cell.nextVersion_of_ofValue hlc hver hv
  subst hnext
  refine ⟨rfl, t.updated [⟨key, row.cell key⟩, ⟨lock, row.cell lock⟩] cells, ?_⟩
  -- the key and the version select one row, which is as it was read in both
  have hsel : ∀ r, t.selects [⟨key, row.cell key⟩, ⟨lock, row.cell lock⟩] r = true →
      r.id key = row.id key := fun r hr => Relation.id_eq_of_selects hkept hr
  have hone : ∀ r ∈ t.rows, r.id key = row.id key → r = s := fun r hr hid =>
    hg.eq_of_id hr hst (hid.trans (hsel s hs).symm)
  have hcur := Relation.version_eq_of_selects hg hst hver hs
  have hcell := Relation.cell_updated_of_cells (hg.names s hst) hcells hs
  constructor
  case columns => rfl
  case rows => exact t.inOrder_perm _
  case found => exact ⟨s, hst, hsel s hs⟩
  case names =>
    intro r _
    exact t.names_updated _ _ r
  case others =>
    intro r hr hid
    unfold Relation.updated
    rw [if_neg fun hsr => hid (hsel r hsr)]
  case current =>
    intro r hr hid
    rw [hone r hr hid, hcur]
  case version =>
    -- the version is put over any pending change of the lock column
    intro r hr hid
    obtain ⟨_, hsent⟩ := Write.field?_cells hcells lock
    obtain ⟨_, c, hc⟩ := hsent (.int ((row.cell lock).version + 1))
      (by rw [lookup?_put_text, if_pos rfl])
    have hci : c = .int ((row.cell lock).version + 1) := Cell.eq_of_ofValue_toValue (c := .int _) hc
    rw [hone r hr hid, hcell lock, cellFor?_put, if_pos rfl, hc, hci, hcur]
    exact Relation.conformTo_int hg.lockColumn _
  case contents =>
    intro r hr hid column hcolumn
    rw [hone r hr hid, hcell column, cellFor?_put, if_neg hcolumn, overlay, hp]

end Changeset

end Lifecycle
