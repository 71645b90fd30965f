import Lifecycle.Proofs.Store.History

namespace Lifecycle

/-- A row is another one after some writes: outside the lock column the changes lie over it in
order, and the version is one higher for each, the last of them that which was answered. -/
structure IsReplay (lock : String) (t : Relation) (ws : List (Changeset × Value)) (r₀ r : Row) :
    Prop where
  contents : ∀ column, column ≠ lock →
    r.cell column = ws.foldl (fun c w => w.1.overlay t column c) (r₀.cell column)
  version : r.cell lock = ws.foldl (fun c _ => .int (c.version + 1)) (r₀.cell lock)
  answered : ∀ w, ws.getLast? = some w → w.2 = (r.cell lock).toValue

section

variable {protocol : List Event → Event → Prop} {key lock : String} {start t after : Relation}
  {es : List Event} {e : Event} {k : Key}
  {ws : List (Changeset × Value)} {r₀ r : Row}

theorem IsReplay.refl (lock : String) (t : Relation) (r : Row) : IsReplay lock t [] r r :=
  ⟨fun _ _ => rfl, rfl, fun _ h => by cases h⟩

theorem version_foldl (ws : List (Changeset × Value)) (c : Cell) :
    (ws.foldl (fun c _ => Cell.int (c.version + 1)) c).version = c.version + ws.length := by
  induction ws generalizing c with
  | nil => simp
  | cons w ws ih =>
    rw [List.foldl_cons, ih, List.length_cons, Cell.version]
    omega

theorem IsReplay.version_eq (h : IsReplay lock t ws r₀ r) :
    (r.cell lock).version = (r₀.cell lock).version + ws.length := by
  rw [h.version, version_foldl]

theorem overlay_congr (h : t.columns = start.columns) (cs : Changeset) :
    cs.overlay t = cs.overlay start := by
  funext column c
  rw [Changeset.overlay, Changeset.overlay, conformTo_congr h]

theorem writesTo_append (key : String) (k : Key) (es : List Event) (e : Event) :
    writesTo key k (es ++ [e]) = writesTo key k es ++ (e.writeTo? key k).toList := by
  rw [writesTo, List.filterMap_append]
  cases h : e.writeTo? key k <;> simp [h, writesTo]

/-- A table's rows are those of the start with the writes to them replayed. -/
def IsReplayed (key lock : String) (start : Relation) (es : List Event) (t : Relation) : Prop :=
  ∀ r ∈ t.rows, ∃ r₀ ∈ start.rows, r₀.id key = r.id key ∧
    IsReplay lock start (writesTo key (r.id key) es) r₀ r

theorem isReplayed_append_of_writeTo? (h : IsReplayed key lock start es t)
    (he : ∀ k, e.writeTo? key k = none) : IsReplayed key lock start (es ++ [e]) t := by
  intro r hr
  rw [writesTo_append, he, Option.toList_none, List.append_nil]
  exact h r hr

/-- A step replays the writes before it, and itself. -/
theorem IsReplayed.step (h : IsReplayed key lock start es t) (hst : IsSteady key lock start es t)
    (hs : Step key lock es t e after) : IsReplayed key lock start (es ++ [e]) after := by
  have hne := hst.guarded.apart
  cases hs with
  | read => exact isReplayed_append_of_writeTo? h fun _ => rfl
  | drafted => exact isReplayed_append_of_writeTo? h fun _ => rfl
  | checked => exact isReplayed_append_of_writeTo? h fun _ => rfl
  | refused => exact isReplayed_append_of_writeTo? h fun _ => rfl
  | @wrote i row cs v _ _ _ ho hleaves ha =>
    obtain ⟨hv, f, hw⟩ := hst.isWrite ho ha
    intro r' hr'
    obtain ⟨r, hr, rfl⟩ := hw.exists_of_mem hr'
    obtain ⟨r₀, hr₀, hid₀, hrep⟩ := h r hr
    refine ⟨r₀, hr₀, hid₀.trans (hw.id_eq hne hleaves hr).symm, ?_⟩
    rw [hw.id_eq hne hleaves hr, writesTo_append]
    -- only the row with the key of the write has one more to replay
    by_cases hid : r.id key = row.id key
    · have he : (Event.wrote i row cs v).writeTo? key (r.id key) = some (cs, v) := if_pos hid.symm
      rw [he]
      constructor
      case contents =>
        intro column hc
        rw [hw.contents r hr hid column hc, overlay_congr hst.columns, hrep.contents column hc]
        simp
      case version =>
        rw [hw.version r hr hid, hrep.version]
        simp
      case answered =>
        intro w hlast
        rw [Option.toList_some, List.getLast?_concat] at hlast
        cases hlast
        rw [hw.version r hr hid, hw.current r hr hid, hv]
        rfl
    · have he : (Event.wrote i row cs v).writeTo? key (r.id key) = none := if_neg (Ne.symm hid)
      rw [he, hw.others r hr hid, Option.toList_none, List.append_nil]
      exact hrep

theorem History.isReplayed {start : GuardedTable key lock}
    (h : History protocol key lock start.1 es t) : IsReplayed key lock start.1 es t := by
  induction h with
  | start =>
    intro r hr
    exact ⟨r, hr, rfl, .refl lock start.1 r⟩
  | step h _ hs ih => exact ih.step h.isSteady hs

end

end Lifecycle
