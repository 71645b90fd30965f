import Lifecycle.Proofs.Store.Update

namespace Lifecycle

/-- What the clients of a table do. What refers to an earlier event does so by its place. -/
inductive Event where
  /-- A row is read as some data. -/
  | read (row : Row) (data : Value)
  /-- A changeset is made of data that was read. -/
  | drafted (origin : Nat) (cs : Changeset)
  /-- A draft is checked, with the options given. -/
  | checked (draft : Nat) (given : List (String × Value)) (cs : Changeset)
  /-- A changeset on a row as it was read is written, and its new version answered. -/
  | wrote (origin : Nat) (row : Row) (cs : Changeset) (version : Value)
  /-- A changeset on data that was read is refused. -/
  | refused (origin : Nat) (cs : Changeset) (fault : Fault)

/-- What can come next. Only a write changes the table. -/
inductive Step (key lock : String) (es : List Event) (t : Relation) : Event → Relation → Prop where
  | read {row : Row} {data : Value} (hr : row ∈ t.rows) (hkey : row.GivenBy data key)
      (hlock : row.GivenBy data lock) : Step key lock es t (.read row data) t
  | drafted {i : Nat} {cs : Changeset} : Step key lock es t (.drafted i cs) t
  | checked {i : Nat} {given : List (String × Value)} {cs : Changeset} :
      Step key lock es t (.checked i given cs) t
  | wrote {i : Nat} {row : Row} {cs : Changeset} {v : Value} {after : Relation} {w w' : World}
      (ho : es[i]? = some (.read row cs.data)) (hkey : cs.Leaves key)
      (ha : (cs.apply t key (some lock)).run.run w = (.ok (after, v), w')) :
      Step key lock es t (.wrote i row cs v) after
  | refused {i : Nat} {row : Row} {cs : Changeset} {f : Fault} {w w' : World}
      (ho : es[i]? = some (.read row cs.data))
      (ha : (cs.apply t key (some lock)).run.run w = (.error f, w')) :
      Step key lock es t (.refused i cs f) t

/-- The events between two states of a table, in the order in which they came, each of them one that
a protocol of the clients lets follow those before. -/
inductive History (protocol : List Event → Event → Prop) (key lock : String) (start : Relation) :
    List Event → Relation → Prop where
  | start : History protocol key lock start [] start
  | step {es : List Event} {t after : Relation} {e : Event}
      (h : History protocol key lock start es t) (hp : protocol es e)
      (hs : Step key lock es t e after) : History protocol key lock start (es ++ [e]) after

/-- The changeset that an event writes to the row with a key, and the version answered. -/
def Event.writeTo? (key : String) (k : Key) : Event → Option (Changeset × Value)
  | .wrote _ row cs v => if row.id key = k then some (cs, v) else none
  | _ => none

/-- The writes to the row with a key. -/
def writesTo (key : String) (k : Key) (es : List Event) : List (Changeset × Value) :=
  es.filterMap (Event.writeTo? key k)

/-- What holds of a table after any events: its rows are still those of the start, and what was read
of them can be told from what they are now. -/
structure IsSteady (key lock : String) (start : Relation) (es : List Event) (t : Relation) :
    Prop where
  guarded : t.IsGuarded key lock
  columns : t.columns = start.columns
  rows : (t.rows.map (Row.id key)).Perm (start.rows.map (Row.id key))
  reads : ∀ row data, .read row data ∈ es →
    row.GivenBy data key ∧ row.GivenBy data lock ∧
      start.conformTo key (row.cell key) = row.cell key ∧ (row.cell lock).IsVersion

section

variable {protocol : List Event → Event → Prop} {key lock : String} {start t after : Relation}
  {es : List Event} {e : Event} {row : Row} {cs : Changeset} {f : Row → Row}

theorem conformTo_congr (h : t.columns = start.columns) : t.conformTo = start.conformTo := by
  funext column c
  rw [Relation.conformTo, Relation.conformTo, Relation.column?, Relation.column?, h]

theorem IsWrite.cell_key (hw : IsWrite key lock row cs t after f) (hne : key ≠ lock)
    (hleaves : cs.Leaves key) {r : Row} (hr : r ∈ t.rows) : (f r).cell key = r.cell key := by
  by_cases hid : r.id key = row.id key
  · rw [hw.contents r hr hid key hne, Changeset.overlay_of_leaves hleaves]
  · rw [hw.others r hr hid]

theorem IsWrite.id_eq (hw : IsWrite key lock row cs t after f) (hne : key ≠ lock)
    (hleaves : cs.Leaves key) {r : Row} (hr : r ∈ t.rows) : (f r).id key = r.id key := by
  rw [Row.id, Row.id, hw.cell_key hne hleaves hr]

theorem IsWrite.exists_of_mem (hw : IsWrite key lock row cs t after f) {r : Row}
    (hr : r ∈ after.rows) : ∃ s ∈ t.rows, f s = r :=
  List.mem_map.mp (hw.rows.mem_iff.mp hr)

theorem IsWrite.isGuarded (hw : IsWrite key lock row cs t after f) (hleaves : cs.Leaves key)
    (hg : t.IsGuarded key lock) :
    after.IsGuarded key lock ∧ (after.rows.map (Row.id key)).Perm (t.rows.map (Row.id key)) := by
  have hids : (after.rows.map (Row.id key)).Perm (t.rows.map (Row.id key)) := by
    refine (hw.rows.map _).trans ?_
    rw [List.map_map]
    refine List.Perm.of_eq (List.map_congr_left ?_)
    intro r hr
    exact hw.id_eq hg.apart hleaves hr
  refine ⟨?_, hids⟩
  -- the written row keeps its columns and its key, so each field comes back from the row before
  constructor
  case apart => exact hg.apart
  case names =>
    intro r hr
    obtain ⟨s, hs, rfl⟩ := hw.exists_of_mem hr
    rw [hw.names s hs, hw.columns, hg.names s hs]
  case keyed => exact hids.nodup_iff.mpr hg.keyed
  case kept =>
    intro r hr
    obtain ⟨s, hs, rfl⟩ := hw.exists_of_mem hr
    rw [conformTo_congr hw.columns, hw.cell_key hg.apart hleaves hs]
    exact hg.kept s hs
  case lockColumn =>
    rw [Relation.column?, hw.columns]
    exact hg.lockColumn
  case versions =>
    intro r hr
    obtain ⟨s, hs, rfl⟩ := hw.exists_of_mem hr
    by_cases hid : s.id key = row.id key
    · exact .inr ⟨_, hw.version s hs hid⟩
    · rw [hw.others s hs hid]
      exact hg.versions s hs

theorem IsSteady.isWrite {i : Nat} {v : Value} {w w' : World}
    (h : IsSteady key lock start es t) (ho : es[i]? = some (.read row cs.data))
    (ha : (cs.apply t key (some lock)).run.run w = (.ok (after, v), w')) :
    v = .int ((row.cell lock).version + 1) ∧ ∃ f, IsWrite key lock row cs t after f := by
  obtain ⟨hk, hl, hkept, hver⟩ := h.reads row cs.data (List.mem_of_getElem? ho)
  rw [← conformTo_congr h.columns] at hkept
  exact Changeset.isWrite_of_apply h.guarded hk hl hkept hver ha

theorem isSteady_append_of_ne_read (h : IsSteady key lock start es t)
    (he : ∀ row data, e ≠ .read row data) : IsSteady key lock start (es ++ [e]) t := by
  refine ⟨h.guarded, h.columns, h.rows, ?_⟩
  intro row data hm
  rcases List.mem_append.mp hm with hm | hm
  · exact h.reads row data hm
  · exact absurd (List.mem_singleton.mp hm).symm (he row data)

/-- No step unsettles a table. -/
theorem IsSteady.step (h : IsSteady key lock start es t) (hs : Step key lock es t e after) :
    IsSteady key lock start (es ++ [e]) after := by
  cases hs with
  | read hr hkey hlock =>
    refine ⟨h.guarded, h.columns, h.rows, ?_⟩
    intro row data hm
    rcases List.mem_append.mp hm with hm | hm
    · exact h.reads row data hm
    · cases List.mem_singleton.mp hm
      refine ⟨hkey, hlock, ?_, h.guarded.versions _ hr⟩
      rw [← conformTo_congr h.columns]
      exact h.guarded.kept _ hr
  | drafted => exact isSteady_append_of_ne_read h fun _ _ => nofun
  | checked => exact isSteady_append_of_ne_read h fun _ _ => nofun
  | @wrote i row cs v _ _ _ ho hleaves ha =>
    obtain ⟨_, f, hw⟩ := h.isWrite ho ha
    obtain ⟨hg, hids⟩ := hw.isGuarded hleaves h.guarded
    have hn := isSteady_append_of_ne_read (e := .wrote i row cs v) h fun _ _ => nofun
    exact ⟨hg, hw.columns.trans h.columns, hids.trans h.rows, hn.reads⟩
  | refused => exact isSteady_append_of_ne_read h fun _ _ => nofun

theorem History.isSteady {start : GuardedTable key lock}
    (h : History protocol key lock start.1 es t) : IsSteady key lock start.1 es t := by
  induction h with
  | start => exact ⟨start.2, rfl, .refl _, fun _ _ hm => by cases hm⟩
  | step _ _ hs ih => exact ih.step hs

/-- Every event was a step from the state that the events before it had led to, and one that the
protocol let follow them. -/
theorem History.step_at (h : History protocol key lock start es t) {i : Nat}
    (he : es[i]? = some e) :
    ∃ s s', History protocol key lock start (es.take i) s ∧ protocol (es.take i) e ∧
      Step key lock (es.take i) s e s' := by
  induction h with
  | start => cases he
  | @step es t after e' h hp hs ih =>
    rcases Nat.lt_trichotomy i es.length with hi | hi | hi
    · rw [List.getElem?_append_left hi] at he
      rw [List.take_append_of_le_length (Nat.le_of_lt hi)]
      exact ih he
    · subst hi
      rw [List.getElem?_concat_length] at he
      cases he
      rw [List.take_left]
      exact ⟨t, after, h, hp, hs⟩
    · rw [List.getElem?_eq_none (by rw [List.length_append, List.length_singleton]; omega)] at he
      cases he

end

end Lifecycle
