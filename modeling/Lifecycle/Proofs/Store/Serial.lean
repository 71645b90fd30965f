import Lifecycle.Proofs.Store.Create
import Lifecycle.Proofs.Store.Replay

namespace Lifecycle

section

variable {protocol : List Event → Event → Prop} {key lock : String}
  {start : GuardedTable key lock} {t : Relation} {es : List Event} {e : Event} {id : Key}
  {row r : Row} {data : Value} {i j k : Nat}

theorem isPrefix_writesTo_take (key : String) (id : Key) (es : List Event) (h : j ≤ k) :
    writesTo key id (es.take j) <+: writesTo key id (es.take k) :=
  (List.take_prefix_take_left h).filterMap _

theorem length_writesTo_lt (hj : j ≤ i) (hk : i < k) (he : es[i]? = some e)
    (hw : e.writeTo? key id ≠ none) :
    (writesTo key id (es.take j)).length < (writesTo key id (es.take k)).length := by
  have hbefore := (isPrefix_writesTo_take key id es hj).length_le
  have hafter := (isPrefix_writesTo_take key id es (Nat.succ_le_of_lt hk)).length_le
  obtain ⟨w, hw⟩ := Option.ne_none_iff_exists'.mp hw
  have hone : writesTo key id (es.take (i + 1)) = writesTo key id (es.take i) ++ [w] := by
    rw [List.take_add_one, he, Option.toList_some, writesTo_append, hw, Option.toList_some]
  rw [hone, List.length_append, List.length_singleton] at hafter
  omega

/-- A row that still has the version at which it was read has not been written since, and is as it
was. -/
theorem History.unwritten (h : History protocol key lock start.1 es t)
    (hj : es[j]? = some (.read row data))
    (hr : r ∈ t.rows) (hid : r.id key = row.id key) (hver : r.cell lock = row.cell lock) :
    writesTo key (row.id key) (es.take j) = writesTo key (row.id key) es ∧
      ∀ column, r.cell column = row.cell column := by
  obtain ⟨s, _, hs, _, hstep⟩ := h.step_at hj
  cases hstep with
  | read hrow =>
    obtain ⟨r₁, hr₁, hid₁, hrep₁⟩ := hs.isReplayed row hrow
    obtain ⟨r₀, hr₀, hid₀, hrep₀⟩ := h.isReplayed r hr
    rw [hid] at hid₀ hrep₀
    have hsame := start.2.eq_of_id hr₀ hr₁ (hid₀.trans hid₁.symm)
    subst hsame
    -- both states are replays of one row, and the versions count the writes replayed
    have hlen : (writesTo key (row.id key) (es.take j)).length =
        (writesTo key (row.id key) es).length := by
      have h₁ := hrep₁.version_eq
      have h₀ := hrep₀.version_eq
      rw [hver] at h₀
      omega
    have hinit : writesTo key (row.id key) (es.take j) <+: writesTo key (row.id key) es :=
      (List.take_prefix j es).filterMap _
    have heq := hinit.eq_of_length hlen
    refine ⟨heq, fun column => ?_⟩
    by_cases hc : column = lock
    · rw [hc, hver]
    · rw [hrep₀.contents column hc, hrep₁.contents column hc, heq]

theorem History.read_before {v : Value} {cs : Changeset}
    (h : History protocol key lock start.1 es t)
    (hi : es[i]? = some (.wrote j row cs v)) : j < i ∧ es[j]? = some (.read row cs.data) := by
  obtain ⟨_, _, _, _, hstep⟩ := h.step_at hi
  cases hstep with
  | wrote ho =>
    rw [List.getElem?_take] at ho
    split at ho
    next hj => exact ⟨hj, ho⟩
    next => cases ho

theorem History.current_before {v : Value} {cs : Changeset}
    (h : History protocol key lock start.1 es t)
    (hi : es[i]? = some (.wrote j row cs v)) :
    writesTo key (row.id key) (es.take j) = writesTo key (row.id key) (es.take i) := by
  obtain ⟨s, s', hs, _, hstep⟩ := h.step_at hi
  obtain ⟨hji, hj⟩ := h.read_before hi
  cases hstep with
  | wrote ho hleaves ha =>
    obtain ⟨_, f, hw⟩ := hs.isSteady.isWrite ho ha
    obtain ⟨r, hr, hid⟩ := hw.found
    have hun := (hs.unwritten ho hr hid (hw.current r hr hid)).1
    rw [List.take_take, Nat.min_eq_left (Nat.le_of_lt hji)] at hun
    exact hun

end

/-- No update is lost: the writes to a row come one after the other, each made of what was read
after the one before, and the row is what they make of it. -/
structure IsSerial (key lock : String) (start : Relation) (es : List Event) (t : Relation) :
    Prop where
  rows : (t.rows.map (Row.id key)).Perm (start.rows.map (Row.id key))
  replayed : ∀ r₀ ∈ start.rows, ∀ r ∈ t.rows, r₀.id key = r.id key →
    IsReplay lock start (writesTo key (r.id key) es) r₀ r
  readBefore : ∀ (i j : Nat) (row : Row) (cs : Changeset) (v : Value),
    es[i]? = some (.wrote j row cs v) → j < i ∧ es[j]? = some (.read row cs.data)
  chained : ∀ (i i' j j' : Nat) (row row' : Row) (cs cs' : Changeset) (v v' : Value),
    es[i]? = some (.wrote j row cs v) → es[i']? = some (.wrote j' row' cs' v') →
    row.id key = row'.id key → i < i' → i < j'
  once : ∀ (i i' j : Nat) (row row' : Row) (cs cs' : Changeset) (v v' : Value),
    es[i]? = some (.wrote j row cs v) → es[i']? = some (.wrote j row' cs' v') → i = i'

section

variable {protocol : List Event → Event → Prop} {key lock : String}
  {start : GuardedTable key lock} {t : Relation} {es : List Event}

theorem History.chained (h : History protocol key lock start.1 es t) {i i' j j' : Nat}
    {row row' : Row} {cs cs' : Changeset} {v v' : Value} (hi : es[i]? = some (.wrote j row cs v))
    (hi' : es[i']? = some (.wrote j' row' cs' v')) (hid : row.id key = row'.id key)
    (hlt : i < i') : i < j' := by
  by_contra hle
  -- the earlier write would then lie between the later one and its read
  have hcur := h.current_before hi'
  have hw : (Event.wrote j row cs v).writeTo? key (row'.id key) ≠ none := by
    rw [Event.writeTo?, if_pos hid]
    exact nofun
  have hfewer := length_writesTo_lt (Nat.le_of_not_lt hle) hlt hi hw
  rw [hcur] at hfewer
  exact Nat.lt_irrefl _ hfewer

/-- However reads and writes follow each other, no update is lost. -/
theorem History.isSerial (h : History protocol key lock start.1 es t) :
    IsSerial key lock start.1 es t := by
  constructor
  case rows => exact h.isSteady.rows
  case replayed =>
    intro r₀ hr₀ r hr hid
    obtain ⟨r₁, hr₁, hid₁, hrep⟩ := h.isReplayed r hr
    rw [start.2.eq_of_id hr₀ hr₁ (hid.trans hid₁.symm)]
    exact hrep
  case readBefore =>
    intro i j row cs v hi
    exact h.read_before hi
  case chained =>
    intro i i' j j' row row' cs cs' v v' hi hi' hid hlt
    exact h.chained hi hi' hid hlt
  case once =>
    intro i i' j row row' cs cs' v v' hi hi'
    obtain ⟨hji, hj⟩ := h.read_before hi
    obtain ⟨hji', hj'⟩ := h.read_before hi'
    -- both are writes to the row that was read, so the later would have been read after the earlier
    have hrow : row = row' := by
      rw [hj] at hj'
      exact (Event.read.inj (Option.some.inj hj')).1
    subst hrow
    rcases Nat.lt_trichotomy i i' with hlt | heq | hlt
    · have := h.chained hi hi' rfl hlt
      omega
    · exact heq
    · have := h.chained hi' hi rfl hlt
      omega

/-- Two clients read a row without a version, and only the first to write it succeeds. -/
theorem isSerial_of_two_reads :
    let table (rows : List Row) : Relation := ⟨"todos", [⟨"id", .text, true, true⟩,
      ⟨"state", .text, false, true⟩, ⟨"version", .int, false, false⟩], rows⟩
    let row (id state : String) (v : Cell) : Row :=
      [("id", .text id), ("state", .text state), ("version", v)]
    let cs (r : Row) (state : String) : Changeset :=
      .mk 0 r.value (.dict 0 [(.text "state", .text state)]) .none []
    let r := row "a" "created" .null
    let start := table [r, row "b" "created" (.int 4)]
    let t := table [row "a" "paid" (.int 1), row "b" "created" (.int 4)]
    let es : List Event := [.read r r.value, .read r r.value, .wrote 0 r (cs r "paid") (.int 1),
      .refused 1 (cs r "closed") (.staleRecord "todos" "id" (.text "a"))]
    start.IsGuarded "id" "version" ∧
      History (fun _ _ => True) "id" "version" start es t ∧ IsSerial "id" "version" start es t := by
  intro table row cs r start t es
  have hcreate : Relation.create "todos" (table []).columns
      [[("id", .text "a"), ("state", .text "created")],
        [("id", .text "b"), ("state", .text "created"), ("version", .int 4)]] = .ok start := rfl
  have hversion : ∃ c, start.column? "version" = some c ∧ c.type = .int :=
    ⟨⟨"version", .int, false, false⟩, rfl, rfl⟩
  have hg : start.IsGuarded "id" "version" := by
    apply Relation.isGuarded_of_create hcreate (by decide) (by decide) (by decide) hversion
    intro s hs
    simp only [start, table, List.mem_cons, List.not_mem_nil, or_false] at hs
    rcases hs with rfl | rfl
    · exact .inl rfl
    · exact .inr ⟨4, rfl⟩
  have hread : ∀ es, Step "id" "version" es start (.read r r.value) start := fun es =>
    .read (by simp [start, table]) (Row.givenBy_value (by decide)) (Row.givenBy_value (by decide))
  have hleaves : (cs r "paid").Leaves "id" := Changeset.leaves_of_dict rfl (by decide)
  have h₁ : History (fun _ _ => True) "id" "version" start (es.take 1) start :=
    History.start.step trivial (hread [])
  have h₂ := h₁.step trivial (hread _)
  have h₃ : History (fun _ _ => True) "id" "version" start (es.take 3) t :=
    h₂.step trivial (.wrote (w := {}) rfl hleaves rfl)
  have h : History (fun _ _ => True) "id" "version" start es t :=
    h₃.step trivial (.refused (w := {}) rfl rfl)
  exact ⟨hg, h, @History.isSerial _ _ _ ⟨start, hg⟩ _ _ h⟩

/-- A column of whole numbers keeps the text of one as the number, so that the row does not become what
the change lays over it. -/
theorem not_serial_as_stored :
    let table (rows : List Row) : Relation := ⟨"todos", [⟨"id", .text, true, true⟩,
      ⟨"state", .int, false, false⟩, ⟨"version", .int, false, false⟩], rows⟩
    let row (state v : Int) : Row := [("id", .text "a"), ("state", .int state), ("version", .int v)]
    let r := row 0 0
    let r' := row 1 1
    let cs : Changeset := .mk 0 r.value (.dict 0 [(.text "state", .text "1")]) .none []
    let es : List Event := [.read r r.value, .wrote 0 r cs (.int 1)]
    (table [r]).IsGuarded "id" "version" ∧
      History (fun _ _ => True) "id" "version" (table [r]) es (table [r']) ∧
      writesTo "id" (r.id "id") es = [(cs, .int 1)] ∧ r'.id "id" = r.id "id" ∧
      Table.lookup? [(.text "state", .text "1")] (.text "state") = some (.text "1") ∧
      (r'.cell "state").toValue.same (.text "1") = false := by
  intro table row r r' cs es
  have hcreate : Relation.create "todos" (table []).columns
      [[("id", .text "a"), ("state", .int 0), ("version", .int 0)]] = .ok (table [r]) := rfl
  have hversion : ∃ c, (table [r]).column? "version" = some c ∧ c.type = .int :=
    ⟨⟨"version", .int, false, false⟩, rfl, rfl⟩
  have hg : (table [r]).IsGuarded "id" "version" := by
    apply Relation.isGuarded_of_create hcreate (by decide) (by decide) (by decide) hversion
    intro s hs
    rw [List.mem_singleton.mp hs]
    exact .inr ⟨0, rfl⟩
  have hread : Step "id" "version" [] (table [r]) (.read r r.value) (table [r]) :=
    .read (List.mem_singleton_self r) (Row.givenBy_value (by decide))
      (Row.givenBy_value (by decide))
  have hleaves : cs.Leaves "id" := Changeset.leaves_of_dict rfl (by decide)
  have h₁ : History (fun _ _ => True) "id" "version" (table [r]) (es.take 1) (table [r]) :=
    History.start.step trivial hread
  have h : History (fun _ _ => True) "id" "version" (table [r]) es (table [r']) :=
    h₁.step trivial (.wrote (w := {}) rfl hleaves rfl)
  exact ⟨hg, h, rfl, rfl, rfl, by decide⟩

end

end Lifecycle
