import Lifecycle.Proofs.Store.Update

namespace Lifecycle

/-- A version one above another. Anything false counts as zero. -/
def Value.IsNext (current v : Value) : Prop :=
  (current.truth = false ∧ v = .int 1) ∨ (∃ n, current.int? = some n ∧ v = .int (n + 1)) ∨
    ∃ x, current = .float x ∧ v = .float x.succ

theorem isNext_of_nextVersion {current v : Value} (h : nextVersion current = .ok v) :
    current.IsNext v := by
  unfold nextVersion at h
  cases ht : current.truth with
  | false =>
    simp only [ht, Bool.false_eq_true, if_false] at h
    exact .inl ⟨ht, (Except.ok.inj h).symm⟩
  | true =>
    simp only [ht, if_true] at h
    split at h
    next x => exact .inr (.inr ⟨x, rfl, (Except.ok.inj h).symm⟩)
    next n _ hn => exact .inr (.inl ⟨n, hn, (Except.ok.inj h).symm⟩)
    next => cases h

/-- What a write makes of the rows. Those that still are as the changeset's record was read take the
pending changes and, over them, the version, and keep the rest. The others stay as they are. -/
structure IsExactWrite (cs : Changeset) (items : Table) (key : String) (lock : Option String)
    (v : Value) (t after : Relation) (f : Row → Row) : Prop where
  name : after.name = t.name
  columns : after.columns = t.columns
  rows : after.rows.Perm (t.rows.map f)
  names : ∀ r ∈ t.rows, (f r).map (·.1) = r.map (·.1)
  others : ∀ r ∈ t.rows, ¬t.IsCurrent cs key lock r → f r = r
  changed : ∀ r ∈ t.rows, t.IsCurrent cs key lock r → ∀ column x, lock ≠ some column →
    Table.lookup? items (.text column) = some x →
      ∃ c, Cell.ofValue x = .ok c ∧ (f r).cell column = t.conformTo column c
  version : ∀ r ∈ t.rows, t.IsCurrent cs key lock r → ∀ column, lock = some column →
    ∃ c, Cell.ofValue v = .ok c ∧ (f r).cell column = t.conformTo column c
  kept : ∀ r ∈ t.rows, t.IsCurrent cs key lock r → ∀ column, lock ≠ some column →
    Table.lookup? items (.text column) = none → (f r).cell column = r.cell column

namespace Changeset

variable {t after : Relation} {cs : Changeset} {items : Table} {key : String}
  {lock : Option String} {v : Value} {world world' : World}

/-- What a write sets, by column: the version where the lock is, and the pending change elsewhere. -/
theorem lookup?_values {w : Write} (hw : w.IsOf cs key lock)
    (hitems : cs.changes.toTable = .ok items) (column : String) : Table.lookup? w.values (.text column) =
      if lock = some column then some w.version else Table.lookup? items (.text column) := by
  obtain ⟨pending, hp, hvalues⟩ := hw.values
  rw [hitems] at hp
  cases hp
  cases lock with
  | none => rw [hvalues, Option.elim_none, if_neg nofun]
  | some column' =>
    rw [hvalues, Option.elim_some, lookup?_put_text]
    simp [eq_comm]

theorem isExactWrite_of_apply {w : Write} {conditions : List Condition}
    {cells : List (String × Cell)} (hnames : ∀ r ∈ t.rows, r.map (·.1) = t.columns.map (·.name))
    (hitems : cs.changes.toTable = .ok items) (hw : w.IsOf cs key lock)
    (hcond : w.conditions = .ok conditions) (hcells : Write.cells t w.values = .ok cells) :
    IsExactWrite cs items key lock w.version t
      { t with rows := t.inOrder (t.rows.map (t.updated conditions cells)) }
      (t.updated conditions cells) := by
  have hsel : ∀ r, t.selects conditions r = true ↔ t.IsCurrent cs key lock r := fun r =>
    Write.selects_iff_isCurrent hw hcond
  -- a column of a row that is selected holds what is set for it, which the store takes
  have hset : ∀ r ∈ t.rows, t.IsCurrent cs key lock r → ∀ column x,
      Table.lookup? w.values (.text column) = some x →
        ∃ c, Cell.ofValue x = .ok c ∧
          (t.updated conditions cells r).cell column = t.conformTo column c := by
    intro r hr hcur column x hx
    obtain ⟨_, c, hc⟩ := (Write.field?_cells hcells column).2 x hx
    have hcell := Relation.cell_updated_of_cells (hnames r hr) hcells ((hsel r).mpr hcur) column
    refine ⟨c, hc, ?_⟩
    rw [hcell, Table.cellFor?, hx, Option.bind_some, hc]
    rfl
  constructor
  case name => rfl
  case columns => rfl
  case rows => exact t.inOrder_perm _
  case names =>
    intro r _
    exact t.names_updated _ _ r
  case others =>
    intro r _ hcur
    unfold Relation.updated
    rw [if_neg fun hs => hcur ((hsel r).mp hs)]
  case changed =>
    intro r hr hcur column x hne hx
    apply hset r hr hcur column x
    rw [lookup?_values hw hitems, if_neg hne, hx]
  case version =>
    intro r hr hcur column hlock
    apply hset r hr hcur column
    rw [lookup?_values hw hitems, if_pos hlock]
  case kept =>
    intro r hr hcur column hne hx
    have hcell := Relation.cell_updated_of_cells (hnames r hr) hcells ((hsel r).mpr hcur) column
    rw [hcell, Table.cellFor?, lookup?_values hw hitems, if_neg hne, hx]
    rfl

theorem isExactWrite_of_nothing {w : Write} (hw : w.IsOf cs key lock)
    (hitems : cs.changes.toTable = .ok items) (hnil : w.values = []) :
    IsExactWrite cs items key lock w.version t t fun r => r := by
  have hnone : ∀ column, lock ≠ some column ∧ Table.lookup? items (.text column) = none := by
    intro column
    have hlookup := lookup?_values hw hitems column
    rw [hnil] at hlookup
    by_cases hlock : lock = some column
    · rw [if_pos hlock] at hlookup
      cases hlookup
    · rw [if_neg hlock] at hlookup
      exact ⟨hlock, hlookup.symm⟩
  constructor
  case name => rfl
  case columns => rfl
  case rows => rw [List.map_id']
  case names => exact fun _ _ => rfl
  case others => exact fun _ _ _ => rfl
  case changed =>
    intro r _ _ column x _ hx
    rw [(hnone column).2] at hx
    cases hx
  case version => exact fun _ _ _ column hlock => absurd hlock (hnone column).1
  case kept => exact fun _ _ _ _ _ _ => rfl

/-- A write that succeeds sets exactly the pending changes, and the next version under a lock, in
exactly the rows that still are as they were read. -/
theorem apply_writes_exactly {number id : Nat} {data schema : Value} {errors : List FieldError}
    (hnames : ∀ r ∈ t.rows, r.map (·.1) = t.columns.map (·.name))
    (h : ((Changeset.mk number data (.dict id items) schema errors).apply t key lock).run.run world =
      (.ok (after, v), world')) :
    let cs := Changeset.mk number data (.dict id items) schema errors
    (∃ f, IsExactWrite cs items key lock v t after f) ∧
      (∀ column, lock = some column → ∃ current,
        cs.getOriginal (.text column) = .ok current ∧ current.IsNext v) ∧
      (lock = none → v = .none) ∧ (items = [] → lock = none → after = t) := by
  intro cs
  have hitems : cs.changes.toTable = .ok items := rfl
  obtain ⟨w, conditions, hw, hcond, rfl, _, hcase⟩ := apply_written h
  refine ⟨?_, ?_, hw.version, ?_⟩
  · rcases hcase with ⟨hnil, rfl⟩ | ⟨_, cells, hcells, rfl⟩
    · exact ⟨fun r => r, isExactWrite_of_nothing hw hitems hnil⟩
    · exact ⟨_, isExactWrite_of_apply hnames hitems hw hcond hcells⟩
  · intro column hlock
    have hguard := hw.guard
    rw [hlock, Option.map_eq_some_iff] at hguard
    obtain ⟨⟨_, current⟩, hg, rfl⟩ := hguard
    obtain ⟨horiginal, hnext⟩ := hw.current _ _ hg
    exact ⟨current, horiginal, isNext_of_nextVersion hnext⟩
  · rintro rfl rfl
    obtain ⟨pending, hp, hvalues⟩ := hw.values
    rcases hcase with ⟨_, rfl⟩ | ⟨hne, _⟩
    · rfl
    · cases hp
      exact absurd hvalues hne

/-- Of two rows, the one that was read is written, and its version goes up whatever the changes say
of it. -/
theorem apply_writes_exactly_one :
    let row (id state : String) (version : Cell) : Row :=
      [("id", .text id), ("state", .text state), ("version", version)]
    let table (rows : List Row) : Relation := ⟨"todos", [⟨"id", .text, true, true⟩,
      ⟨"state", .text, false, true⟩, ⟨"version", .int, false, false⟩], rows⟩
    let t := table [row "a" "created" .null, row "b" "created" .null]
    let after := table [row "a" "paid" (.int 1), row "b" "created" .null]
    let items : Table := [(.text "state", .text "paid"), (.text "version", .int 7)]
    let cs : Changeset := .mk 0 (row "a" "created" .null).value (.dict 0 items) (.type "Row") []
    (∀ r ∈ t.rows, r.map (·.1) = t.columns.map (·.name)) ∧
      (∃ world', (cs.apply t "id" (some "version")).run.run {} = (.ok (after, .int 1), world')) ∧
        ∃ f, IsExactWrite cs items "id" (some "version") (.int 1) t after f := by
  intro row table t after items cs
  have hnames : ∀ r ∈ t.rows, r.map (·.1) = t.columns.map (·.name) := by decide
  have happly : ∃ world', (cs.apply t "id" (some "version")).run.run {} =
      (.ok (after, .int 1), world') := ⟨_, rfl⟩
  have ⟨_, h⟩ := happly
  exact ⟨hnames, happly, (apply_writes_exactly hnames h).1⟩

/-- A version that is there but false counts as zero too. -/
theorem apply_blank_version :
    let table (version : Cell) : Relation := ⟨"todos", [⟨"id", .text, true, true⟩,
      ⟨"version", .int, false, false⟩], [[("id", .text "a"), ("version", version)]]⟩
    let cs : Changeset := .mk 0 (.dict 0 [(.text "id", .text "a"), (.text "version", .text "")])
      (.dict 0 []) (.type "dict") []
    cs.getOriginal (.text "version") = .ok (.text "") ∧
      ((cs.apply (table (.text "")) "id" (some "version")).run.run {}).1 =
        .ok (table (.int 1), .int 1) := by
  intro table cs
  exact ⟨rfl, rfl⟩

end Changeset

end Lifecycle
