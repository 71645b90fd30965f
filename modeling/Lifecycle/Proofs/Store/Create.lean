import Lifecycle.Proofs.Store.Guard

namespace Lifecycle

namespace Cell

theorem conform_wholeReal (x : Binary64) : conform .int (wholeReal x) = wholeReal x := by
  obtain ⟨n, h⟩ | h := wholeReal_eq x
  · rw [h]
    rfl
  · rw [h, conform, h]

theorem conform_number {s : String} {c : Cell} (h : number? s = some c) : conform .int c = c := by
  obtain ⟨n, rfl⟩ | ⟨x, rfl⟩ := number?_eq_some h
  · rfl
  · exact conform_wholeReal x

theorem conform_conform (t : ColumnType) (c : Cell) : conform t (conform t c) = conform t c := by
  cases t with
  | int =>
    cases c with
    | text s =>
      rw [conform]
      cases hn : number? s with
      | none => rw [Option.getD_none, conform, hn, Option.getD_none]
      | some c => exact conform_number hn
    | real x => exact conform_wholeReal x
    | null => rfl
    | int n => rfl
    | blob bs => rfl
  | text => cases c <;> rfl

end Cell

namespace Relation

variable {t after : Relation} {r : Row} {given : List (String × Value)} {columns : List Column}

def Conforms (columns : List Column) (r : Row) : Prop :=
  List.Forall₂ (fun (c : Column) (f : String × Cell) => f.1 = c.name ∧ f.2.conform c.type = f.2)
    columns r

theorem Conforms.names (h : Conforms columns r) : r.map (·.1) = columns.map (·.name) := by
  induction h with
  | nil => rfl
  | cons hf _ ih => rw [List.map_cons, List.map_cons, hf.1, ih]

theorem Conforms.conformTo (h : Conforms t.columns r) (column : String) :
    t.conformTo column (r.cell column) = r.cell column := by
  unfold Relation.conformTo column?
  generalize t.columns = columns at h
  induction h with
  | nil => rfl
  | @cons c f cs r hf _ ih =>
    rw [List.find?_cons, Row.cell, field?_cons, hf.1]
    by_cases hc : c.name = column
    · simp only [hc, decide_true, if_true, Option.getD_some]
      exact hf.2
    · simp only [hc, decide_false, if_false]
      exact ih

theorem type_of_orderColumn? (hn : (t.columns.map (·.name)).Nodup) {c : Column} (hc : c ∈ t.columns)
    (h : t.orderColumn? = some c.name) : c.type = .int := by
  unfold orderColumn? at h
  split at h
  next d hd =>
    split at h
    next ht =>
      have hmem : d ∈ t.columns.filter (·.isKey) := by
        rw [hd]
        exact List.mem_singleton_self d
      rw [← List.inj_on_of_nodup_map hn (List.mem_of_mem_filter hmem) hc (Option.some.inj h)]
      exact ht
    next => cases h
  next => cases h

theorem conforms_mapM {f : Column → Except Fault (String × Cell)}
    (hf : ∀ c ∈ columns, ∀ p, f c = .ok p → p.1 = c.name ∧ p.2.conform c.type = p.2)
    (h : columns.mapM f = .ok r) : Conforms columns r := by
  induction columns generalizing r with
  | nil =>
    cases h
    exact .nil
  | cons c columns ih =>
    obtain ⟨p, rest, hp, hrest, rfl⟩ := mapM_cons_eq_ok.mp h
    refine .cons (hf c List.mem_cons_self p hp) (ih ?_ hrest)
    intro d hd
    exact hf d (List.mem_cons_of_mem _ hd)

theorem conforms_rowOf (hn : (t.columns.map (·.name)).Nodup) (h : t.rowOf given = .ok r) :
    Conforms t.columns r := by
  unfold rowOf at h
  split at h
  · exact absurd h throw_ne_ok
  · apply conforms_mapM ?_ h
    intro c hc p hp
    simp only [bind_eq_ok, pure_eq_ok] at hp
    obtain ⟨cell, _, rfl⟩ := hp
    refine ⟨rfl, ?_⟩
    dsimp only
    split
    -- an ordering column that is given nothing has the next number
    next ho =>
      rw [Bool.and_eq_true, decide_eq_true_eq, decide_eq_true_eq] at ho
      rw [type_of_orderColumn? hn hc ho.2]
      rfl
    next => exact Cell.conform_conform _ _

theorem conforms_insert (hn : (t.columns.map (·.name)).Nodup)
    (ht : ∀ r ∈ t.rows, Conforms t.columns r) (h : t.insert given = .ok after) :
    after.columns = t.columns ∧ ∀ r ∈ after.rows, Conforms t.columns r := by
  simp only [insert, bind_eq_ok] at h
  obtain ⟨r, hr, h⟩ := h
  split at h
  · cases h
    refine ⟨rfl, fun s hs => ?_⟩
    have hm := (t.inOrder_perm (t.rows ++ [r])).mem_iff.mp hs
    rcases List.mem_append.mp hm with hs | hs
    · exact ht s hs
    · rw [List.mem_singleton.mp hs]
      exact conforms_rowOf hn hr
  · exact absurd h throw_ne_ok

theorem conforms_foldlM {rows : List (List (String × Value))} (hn : (t.columns.map (·.name)).Nodup)
    (ht : ∀ r ∈ t.rows, Conforms t.columns r) (h : rows.foldlM insert t = .ok after) :
    after.columns = t.columns ∧ ∀ r ∈ after.rows, Conforms t.columns r := by
  induction rows generalizing t with
  | nil =>
    cases h
    exact ⟨rfl, ht⟩
  | cons given rows ih =>
    rw [List.foldlM_cons, bind_eq_ok] at h
    obtain ⟨mid, hmid, h⟩ := h
    obtain ⟨hc, hrows⟩ := conforms_insert hn ht hmid
    rw [← hc] at hn hrows ⊢
    exact ih hn hrows h

/-- Every table that is made with a lock column of whole numbers is guarded by it, if a key tells
its rows apart. -/
theorem isGuarded_of_create {name key lock : String} {rows : List (List (String × Value))}
    (h : create name columns rows = .ok t) (hne : key ≠ lock) (hn : (columns.map (·.name)).Nodup)
    (hkeyed : (t.rows.map (Row.id key)).Nodup)
    (hlock : ∃ c, t.column? lock = some c ∧ c.type = .int)
    (hver : ∀ r ∈ t.rows, (r.cell lock).IsVersion) : t.IsGuarded key lock := by
  obtain ⟨hc, hrows⟩ := conforms_foldlM (t := ⟨name, columns, []⟩) hn nofun h
  have hconforms : ∀ r ∈ t.rows, Conforms t.columns r := by
    rw [hc]
    exact hrows
  constructor
  case apart => exact hne
  case names =>
    intro r hr
    exact (hconforms r hr).names
  case keyed => exact hkeyed
  case kept =>
    intro r hr
    exact (hconforms r hr).conformTo key
  case lockColumn => exact hlock
  case versions => exact hver

end Relation

end Lifecycle
