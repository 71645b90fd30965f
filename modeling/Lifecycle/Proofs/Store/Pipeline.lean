import Lifecycle.Proofs.Changeset
import Lifecycle.Proofs.Store.Serial
import Lifecycle.Proofs.Validation

namespace Lifecycle

/-- The protocol of clients that write a field only after a matcher has checked it: a changeset is
made of a row as it was read, no change of which assigns the key, then checked, and then written. -/
inductive Validates (m : Matcher) (key field : String) (es : List Event) : Event → Prop where
  | read {row : Row} {data : Value}
      (hf : Changeset.originalOf data (.text field) = .ok (row.cell field).toValue) :
      Validates m key field es (.read row data)
  | drafted {i : Nat} {row : Row} {data changes schema : Value} {named : List (String × Value)}
      {cs : Changeset} (hr : es[i]? = some (.read row data))
      (hc : Changeset.change data changes named schema = .ok cs) (hk : cs.Leaves key) :
      Validates m key field es (.drafted i cs)
  | checked {d i : Nat} {draft cs : Changeset} {given : List (String × Value)} {w w' : World}
      (hd : es[d]? = some (.drafted i draft)) (hu : field? "using" given = some (.matcher m))
      (hv : ((validateField (.text field) given : Check Changeset Unit).runOn draft).run w =
        ((.ok (), cs), w')) : Validates m key field es (.checked d given cs)
  | wrote {c d i : Nat} {draft cs : Changeset} {given : List (String × Value)} {row : Row}
      {v : Value} (hc : es[c]? = some (.checked d given cs))
      (hd : es[d]? = some (.drafted i draft)) : Validates m key field es (.wrote i row cs v)
  | refused {c d i : Nat} {draft cs : Changeset} {given : List (String × Value)} {f : Fault}
      (hc : es[c]? = some (.checked d given cs)) (hd : es[d]? = some (.drafted i draft)) :
      Validates m key field es (.refused i cs f)

/-- What a changeset sends for a field: its pending value, or else what the row has. -/
def Changeset.sent (cs : Changeset) (field : String) (c : Cell) : Cell :=
  match cs.changes.toTable with
  | .ok pending => (Table.cellFor? pending field).getD c
  | .error _ => c

section

variable {m : Matcher} {key lock field : String} {start : GuardedTable key lock}
  {t after : Relation} {es : List Event} {row r r' : Row} {cs : Changeset} {v : Value} {i : Nat}
  {items : Table}

theorem getElem?_of_take {e : Event} {n : Nat} (h : (es.take n)[i]? = some e) :
    es[i]? = some e := by
  rw [List.getElem?_take] at h
  split at h
  · exact h
  · cases h

theorem History.allowed_of_wrote (h : History (Validates m key field) key lock start.1 es t)
    (hp : Validates m key field es (.wrote i row cs v)) (ho : es[i]? = some (.read row cs.data))
    (hvalid : cs.isValid = true) :
    ∃ items, cs.changes = .dict 0 items ∧
      ((∀ d given, .checked d given cs ∈ es → Options.Require given) ∨
          Table.hasKey items (.text field) = true →
        m.allowed (row.cell field).toValue
          ((Table.lookup? items (.text field)).getD (row.cell field).toValue) = true) := by
  cases hp with
  | @wrote c d _ draft _ given _ _ hc hd =>
    obtain ⟨_, _, _, hpc, _⟩ := h.step_at hc
    obtain ⟨_, _, _, hpd, _⟩ := h.step_at hd
    obtain ⟨_, _, _, hpo, _⟩ := h.step_at ho
    -- the draft that was made and the one that was checked are the same, and so the row read
    cases hpo with
    | read horiginal =>
    cases hpd with
    | drafted hr hchange _ =>
    cases hpc with
    | checked hd' hu hv =>
    have hdraft := (getElem?_of_take hd').symm.trans hd
    cases hdraft
    have hread := (getElem?_of_take hr).symm.trans ho
    obtain ⟨hdata, ⟨items, hitems⟩, _⟩ := Changeset.of_change hchange
    obtain ⟨hsame, hchanges, hjudged⟩ := Changeset.of_validateField hitems hu hv
    refine ⟨items, hchanges.trans hitems, fun hmust => ?_⟩
    have hcheck : Options.Require given ∨ draft.hasChange (.text field) ≠ .ok false := by
      rcases hmust with hreq | hkey
      · exact .inl (hreq _ _ (List.mem_of_getElem? hc))
      · rw [Changeset.hasChange_of_dict hitems, hkey]
        exact .inr nofun
    obtain ⟨old, new, hold, hnew, hall⟩ := hjudged hvalid hcheck
    have hgo : draft.getOriginal (.text field) = .ok (row.cell field).toValue := by
      rw [Changeset.getOriginal, ← hsame]
      exact horiginal
    rw [hgo] at hold
    cases hold
    rw [Changeset.getField_of_dict hitems hgo] at hnew
    cases hnew
    exact hall

theorem sent_of_leaves {c : Cell} (hd : cs.changes = .dict 0 items)
    (hl : Table.lookup? items (.text field) = none) : cs.sent field c = c := by
  rw [Changeset.sent, hd]
  simp only [Value.toTable, Table.cellFor?, hl]
  rfl

theorem sent_of_lookup? {c c' : Cell} {x : Value} (hd : cs.changes = .dict 0 items)
    (hl : Table.lookup? items (.text field) = some x) (hx : Cell.ofValue x = .ok c') :
    cs.sent field c = c' := by
  rw [Changeset.sent, hd]
  simp only [Value.toTable, Table.cellFor?, hl, Option.bind_some, hx]
  rfl

theorem allowed_sent {u : Value} {c : Cell} (hd : cs.changes = .dict 0 items)
    (hstored : ∀ x, Table.lookup? items (.text field) = some x → ∃ c', Cell.ofValue x = .ok c') :
    m.allowed u (cs.sent field c).toValue =
      m.allowed u ((Table.lookup? items (.text field)).getD c.toValue) := by
  cases hl : Table.lookup? items (.text field) with
  | none => rw [sent_of_leaves hd hl, Option.getD_none]
  | some x =>
    obtain ⟨c', hc⟩ := hstored x hl
    rw [sent_of_lookup? hd hl hc, Cell.allowed_of_ofValue m u hc, Option.getD_some]

theorem hasKey_of_overlay_ne {c : Cell} (hd : cs.changes = .dict 0 items)
    (h : cs.overlay t field c ≠ c) : Table.hasKey items (.text field) = true := by
  by_contra hkey
  apply h
  rw [Table.hasKey_eq_isSome] at hkey
  have hnone := Option.not_isSome_iff_eq_none.mp hkey
  exact Changeset.overlay_of_leaves (Changeset.leaves_of_dict hd hnone) t c

/-- What is stored for a field is what was sent, as the column keeps it, or what was there. -/
theorem overlay_eq_sent (t : Relation) (cs : Changeset) (field : String) (c : Cell) :
    cs.overlay t field c = cs.sent field c ∨
      cs.overlay t field c = t.conformTo field (cs.sent field c) := by
  unfold Changeset.overlay Changeset.sent
  cases cs.changes.toTable with
  | error e => exact .inl rfl
  | ok pending =>
    cases hc : Table.cellFor? pending field with
    | none => exact .inl (by simp only [hc, Option.map_none])
    | some c' => exact .inr (by simp only [hc, Option.map_some, Option.getD_some])

/-- A write that changes a field, or whose field had to be checked, takes it from what is stored to
what the matcher allows from there, whatever was stored when the row was read. -/
theorem History.allowed_of_step (hfield : field ≠ lock)
    (h : History (Validates m key field) key lock start.1 es t)
    (hp : Validates m key field es (.wrote i row cs v))
    (hs : Step key lock es t (.wrote i row cs v) after) :
    (∃ r ∈ t.rows, r.id key = row.id key) ∧
      ∀ r ∈ t.rows, ∀ r' ∈ after.rows, r'.id key = r.id key →
        (r'.cell field ≠ r.cell field ∨
          r.id key = row.id key ∧ ∀ d given, .checked d given cs ∈ es → Options.Require given) →
        m.allowed (r.cell field).toValue (cs.sent field (r.cell field)).toValue = true ∧
          (r'.cell field = cs.sent field (r.cell field) ∨
            r'.cell field = t.conformTo field (cs.sent field (r.cell field))) := by
  cases hs with
  | wrote ho hleaves ha =>
  have hst := h.isSteady
  have hne := start.2.apart
  obtain ⟨_, f, hw⟩ := hst.isWrite ho ha
  refine ⟨hw.found, ?_⟩
  intro r hr r' hr' hid hmust
  obtain ⟨s, hs, rfl⟩ := hw.exists_of_mem hr'
  rw [hw.id_eq hne hleaves hs] at hid
  have hsr := hst.guarded.eq_of_id hs hr hid
  subst hsr
  -- rows other than the one that is written stay as they are
  have hrow : s.id key = row.id key := by
    by_contra hother
    rcases hmust with hchanged | hchecked
    · rw [hw.others s hs hother] at hchanged
      exact hchanged rfl
    · exact hother hchecked.1
  -- what was read is what is stored, as the version is the one that was read
  have hnow : s.cell field = row.cell field :=
    (h.unwritten ho hs hrow (hw.current s hs hrow)).2 field
  have hstored := hw.contents s hs hrow field hfield
  obtain ⟨items, hd, hall⟩ := h.allowed_of_wrote hp ho (Changeset.apply_eq_ok ha).1
  rw [hstored] at hmust
  rw [hstored]
  refine ⟨?_, overlay_eq_sent t cs field _⟩
  have hcheck : (∀ d given, .checked d given cs ∈ es → Options.Require given) ∨
      Table.hasKey items (.text field) = true := by
    rcases hmust with hchanged | hchecked
    · exact .inr (hasKey_of_overlay_ne hd hchanged)
    · exact .inl hchecked.2
  have hpending : cs.changes.toTable = .ok items := by rw [hd, Value.toTable]
  have hstores : ∀ x, Table.lookup? items (.text field) = some x → ∃ c', Cell.ofValue x = .ok c' :=
    fun x hl => Changeset.ofValue_of_apply hfield hpending hl ha
  rw [allowed_sent hd hstores, hnow]
  exact hall hcheck

/-- A client can read a row as a value, make a changeset of it and have it checked. -/
theorem History.of_check {draft : Changeset} {changes schema : Value}
    {named given : List (String × Value)} {w w' : World} (hr : r ∈ t.rows)
    (hkey : key ∈ r.map (·.1)) (hlock : lock ∈ r.map (·.1)) (hfield : field ∈ r.map (·.1))
    (hown : field ∉ Row.ownNames) (hc : Changeset.change r.value changes named schema = .ok draft)
    (hleaves : draft.Leaves key) (hu : field? "using" given = some (.matcher m))
    (hv : ((validateField (.text field) given : Check Changeset Unit).runOn draft).run w =
      ((.ok (), cs), w')) :
    History (Validates m key field) key lock t
      [.read r r.value, .drafted 0 draft, .checked 1 given cs] t := by
  have hread : Step key lock [] t (.read r r.value) t :=
    .read hr (Row.givenBy_value hkey) (Row.givenBy_value hlock)
  have h₁ : History (Validates m key field) key lock t [.read r r.value] t :=
    History.start.step (.read (Row.originalOf_value_eq_cell hfield hown)) hread
  have h₂ := h₁.step (.drafted (i := 0) rfl hc hleaves) .drafted
  exact h₂.step (.checked (d := 1) (i := 0) rfl hu hv) .checked

/-- A checked change is written, and is one that the matcher allows. -/
theorem allowed_of_step_paid :
    let m : Matcher := .mk [.tuple [.text "created", .text "paid"]] none
    let table (rows : List Row) : Relation := ⟨"todos", [⟨"id", .text, true, true⟩,
      ⟨"state", .text, false, true⟩, ⟨"version", .int, false, false⟩], rows⟩
    let row (state : String) (v : Cell) : Row :=
      [("id", .text "a"), ("state", .text state), ("version", v)]
    let r := row "created" .null
    let r' := row "paid" (.int 1)
    let given : List (String × Value) :=
      [("using", .matcher m), ("required", .bool false), ("message", .text "no")]
    let cs : Changeset := .mk 0 r.value (.dict 0 [(.text "state", .text "paid")]) (.type "Row") []
    let es : List Event := [.read r r.value, .drafted 0 cs, .checked 1 given cs]
    let e : Event := .wrote 0 r cs (.int 1)
    (table [r]).IsGuarded "id" "version" ∧ "id" ≠ "version" ∧ "state" ≠ "version" ∧
      History (Validates m "id" "state") "id" "version" (table [r]) es (table [r]) ∧
      Validates m "id" "state" es e ∧ Step "id" "version" es (table [r]) e (table [r']) ∧
      m.allowed (r.cell "state").toValue (cs.sent "state" (r.cell "state")).toValue = true := by
  intro m table row r r' given cs es e
  have hcreate : Relation.create "todos" (table []).columns
      [[("id", .text "a"), ("state", .text "created")]] = .ok (table [r]) := rfl
  have hversion : ∃ c, (table [r]).column? "version" = some c ∧ c.type = .int :=
    ⟨⟨"version", .int, false, false⟩, rfl, rfl⟩
  have hne : "id" ≠ "version" := by decide
  have hg : (table [r]).IsGuarded "id" "version" := by
    apply Relation.isGuarded_of_create hcreate hne (by decide) (by decide) hversion
    intro s hs
    rw [List.mem_singleton.mp hs]
    exact .inl rfl
  have hleaves : cs.Leaves "id" := Changeset.leaves_of_dict rfl (by decide)
  have hc : Changeset.change r.value (.dict 0 [(.text "state", .text "paid")]) [] .none =
      .ok cs := rfl
  have hv : ((validateField (.text "state") given : Check Changeset Unit).runOn cs).run {} =
      ((.ok (), cs), {}) := rfl
  have h : History (Validates m "id" "state") "id" "version" (table [r]) es (table [r]) :=
    .of_check (List.mem_singleton_self r) (by decide) (by decide) (by decide) (by decide) hc hleaves
      rfl hv
  have hp : Validates m "id" "state" es e := .wrote (c := 2) (d := 1) rfl rfl
  have hs : Step "id" "version" es (table [r]) e (table [r']) := .wrote (w := {}) rfl hleaves rfl
  have hfield : "state" ≠ "version" := by decide
  have hstep := @History.allowed_of_step m _ _ _ ⟨table [r], hg⟩ _ _ _ _ _ _ _ hfield h hp hs
  have hall := hstep.2 r (List.mem_singleton_self r) r' (List.mem_singleton_self r') rfl
    (.inl (by decide))
  exact ⟨hg, hne, hfield, h, hp, hs, hall.1⟩

/-- A column of whole numbers stores the text of one as the number, to which the matcher allows no
move. -/
theorem not_allowed_as_stored :
    let on : Value := .list 0 [.int 0, .text "1"]
    let rules : Value := .list 0 [.tuple [.int 0, .text "1"]]
    let d : Domain := .flat [.int 0, .text "1"]
    let m : Matcher := .mk [.tuple [.int 0, .text "1"]] (some d)
    let table (rows : List Row) : Relation := ⟨"todos", [⟨"id", .text, true, true⟩,
      ⟨"state", .int, false, false⟩, ⟨"version", .int, false, false⟩], rows⟩
    let row (state v : Int) : Row := [("id", .text "a"), ("state", .int state), ("version", .int v)]
    let r := row 0 0
    let r' := row 1 1
    let given : List (String × Value) :=
      [("using", .matcher m), ("required", .bool true), ("message", .text "no")]
    let cs : Changeset := .mk 0 r.value (.dict 0 [(.text "state", .text "1")]) (.type "Row") []
    let es : List Event := [.read r r.value, .drafted 0 cs, .checked 1 given cs]
    let e : Event := .wrote 0 r cs (.int 1)
    Domain.declare on = .ok d ∧ (∃ x, d.expand rules = .ok x ∧ Matcher.ofExpansion x = m) ∧
      (table [r]).IsGuarded "id" "version" ∧
      History (Validates m "id" "state") "id" "version" (table [r]) es (table [r]) ∧
      Validates m "id" "state" es e ∧ Step "id" "version" es (table [r]) e (table [r']) ∧
      r'.id "id" = r.id "id" ∧ r'.cell "state" ≠ r.cell "state" ∧
      m.allowed (r.cell "state").toValue (r'.cell "state").toValue = false := by
  intro on rules d m table row r r' given cs es e
  have hd : Domain.declare on = .ok d := by
    show Domain.ofStates on [.int 0, .text "1"] = .ok d
    unfold Domain.ofStates
    rw [distinct_eq_self (by decide)]
    rfl
  have hm : ∃ x, d.expand rules = .ok x ∧ Matcher.ofExpansion x = m := by
    refine ⟨⟨d, distinct [.tuple [.int 0, .text "1"]], 1⟩, rfl, ?_⟩
    rw [distinct_eq_self (by decide)]
    rfl
  have hcreate : Relation.create "todos" (table []).columns
      [[("id", .text "a"), ("state", .int 0), ("version", .int 0)]] = .ok (table [r]) := rfl
  have hversion : ∃ c, (table [r]).column? "version" = some c ∧ c.type = .int :=
    ⟨⟨"version", .int, false, false⟩, rfl, rfl⟩
  have hg : (table [r]).IsGuarded "id" "version" := by
    apply Relation.isGuarded_of_create hcreate (by decide) (by decide) (by decide) hversion
    intro s hs
    rw [List.mem_singleton.mp hs]
    exact .inr ⟨0, rfl⟩
  have hleaves : cs.Leaves "id" := Changeset.leaves_of_dict rfl (by decide)
  have hc : Changeset.change r.value (.dict 0 [(.text "state", .text "1")]) [] .none = .ok cs := rfl
  have hv : ((validateField (.text "state") given : Check Changeset Unit).runOn cs).run {} =
      ((.ok (), cs), {}) := rfl
  have h : History (Validates m "id" "state") "id" "version" (table [r]) es (table [r]) :=
    .of_check (List.mem_singleton_self r) (by decide) (by decide) (by decide) (by decide) hc hleaves
      rfl hv
  have hs : Step "id" "version" es (table [r]) e (table [r']) := .wrote (w := {}) rfl hleaves rfl
  exact ⟨hd, hm, hg, h, .wrote (c := 2) (d := 1) rfl rfl, hs, rfl, by decide, by decide⟩

end

end Lifecycle
