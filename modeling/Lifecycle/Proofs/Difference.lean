import Lifecycle.Proofs.Changeset
import Lifecycle.Proofs.Fields
import Lifecycle.Proofs.Value.Equality

namespace Lifecycle

theorem Table.lookup?_named (named : List (String × Value)) (name : String) :
    lookup? (named.map fun n => (.text n.1, n.2)) (.text name) = field? name named := by
  induction named with
  | nil => rfl
  | cons n named ih =>
    rw [List.map_cons, lookup?_cons, field?_cons, ih]
    by_cases h : n.1 = name <;> simp [h, Value.key, Key.leaf]

namespace Changeset

variable {data changes schema k old : Value} {name : String} {base p : Table}
  {named : List (String × Value)}

section Merge

/-- What is given as changes comes to entries: those of a mapping, or none where nothing is given. -/
inductive Brings : Value → Table → Prop
  | mapping (id : Nat) (t : KeyedTable) (hh : ∀ e ∈ t.1, e.1.isHashable = true) :
    Brings (.dict id t.1) t.1
  | nothing {v : Value} (h : v.truthOf = .ok false) : Brings v []

/-- The entries of some changes with the named ones put over them. -/
def merged (base : Table) (named : List (String × Value)) : Table :=
  (named.map fun n => (.text n.1, n.2)).foldl (fun t e => Table.put t e.1 e.2) base

theorem Brings.isKeyed (h : Brings changes base) : base.IsKeyed := by
  cases h with
  | mapping _ t _ => exact t.2
  | nothing _ => exact .nil

theorem Brings.isHashable (h : Brings changes base) : ∀ e ∈ base, e.1.isHashable = true := by
  cases h with
  | mapping _ _ hh => exact hh
  | nothing _ => exact List.forall_mem_nil _

theorem Brings.pending_eq (h : Brings changes base) (named : List (String × Value)) :
    pending changes named = .ok (merged base named) := by
  have hmerged : merged base named =
      named.foldl (fun t n => Table.put t (.text n.1) n.2) base := List.foldl_map
  rw [hmerged]
  cases h with
  | mapping _ _ _ => rfl
  | nothing hfalse =>
    unfold pending
    split
    next id items =>
      have htruth : (.ok (!items.isEmpty) : Except Fault Bool) = .ok false := hfalse
      have hempty : items = [] := by simpa using htruth
      rw [hempty]
      rfl
    next =>
      rw [hfalse]
      rfl

/-- Under a name stands what was named so last, or what the mapping has. -/
theorem lookup?_merged (base : Table) (named : List (String × Value)) (name : String) :
    Table.lookup? (merged base named) (.text name) =
      (field? name named.reverse).or (Table.lookup? base (.text name)) := by
  rw [merged, Table.lookup?_foldl_put_eq, ← List.map_reverse, Table.lookup?_named]

theorem isKeyed_merged (h : base.IsKeyed) (named : List (String × Value)) :
    (merged base named).IsKeyed :=
  Table.isKeyed_foldl_put _ h

theorem isHashable_merged (h : ∀ e ∈ base, e.1.isHashable = true)
    (named : List (String × Value)) : ∀ e ∈ merged base named, e.1.isHashable = true := by
  intro e he
  rcases Table.mem_keys_foldl_put (List.mem_map_of_mem he) with hk | hk
  · obtain ⟨f, hf, hfe⟩ := List.mem_map.mp hk
    rw [← hfe]
    exact h f hf
  · obtain ⟨f, hf, hfe⟩ := List.mem_map.mp hk
    obtain ⟨n, _, rfl⟩ := List.mem_map.mp hf
    rw [← hfe]
    rfl

end Merge

section Originals

theorem originalOf_dict (id : Nat) (items : Table) (h : k.isHashable = true) :
    originalOf (.dict id items) k = .ok ((Table.lookup? items k).getD .none) := by
  rw [originalOf, Table.lookup, needHashable_eq_ok.mpr h]
  rfl

theorem originalOf_name (h : originalOf data k = .ok old) (hk : k.key = (Value.text name).key) :
    originalOf data (.text name) = .ok old := by
  unfold originalOf at h ⊢
  split at h
  next id items =>
    simp only [bind_eq_ok, pure_eq_ok, Table.lookup] at h
    obtain ⟨found, ⟨_, _, rfl⟩, rfl⟩ := h
    rw [Table.lookup?_congr hk]
    rfl
  next =>
    split at h
    next n hn =>
      have hkey : Key.leaf (.text n) = Key.leaf (.text name) := by
        rw [← Value.key_of_text? hn, hk, Value.key]
      cases hkey
      exact h
    next => cases h

def Lacks (data : Value) (name : String) : Prop :=
  match data with
  | .dict _ items => Table.lookup? items (.text name) = none
  | v => v.lookup name = .ok none

theorem originalOf_of_lacks (h : Lacks data name) : originalOf data (.text name) = .ok .none := by
  unfold Lacks at h
  split at h
  next id items =>
    rw [originalOf_dict id items rfl, h]
    rfl
  next hdata =>
    unfold originalOf
    split
    next id items => exact absurd rfl (hdata id items)
    next =>
      show (data.lookup name >>= _ : Except Fault Value) = _
      rw [h]
      rfl

end Originals

section Diff

/-- The record has a value for each of the fields of some entries, or an absent one. -/
def Reads (data : Value) (p : Table) : Prop := ∀ e ∈ p, ∃ old, originalOf data e.1 = .ok old

def differs (data : Value) (e : Value × Value) : Bool :=
  match originalOf data e.1 with
  | .ok old => !e.2.equals old
  | .error _ => true

theorem keepDiffering_eq_ok (h : Reads data p) :
    keepDiffering data p = .ok (p.filter (differs data)) := by
  induction p with
  | nil => rfl
  | cons e p ih =>
    rw [Reads, List.forall_mem_cons] at h
    obtain ⟨old, hold⟩ := h.1
    have hd : differs data e = !e.2.equals old := by rw [differs, hold]
    rw [keepDiffering, hold, ok_bind, ih h.2, ok_bind, pure_eq, List.filter_cons, hd]
    cases e.2.equals old <;> rfl

/-- The first field that cannot be read is what goes wrong. -/
theorem keepDiffering_outcome (data : Value) (p : Table) :
    Reads data p ∨ ∃ front e back f, p = front ++ e :: back ∧ Reads data front ∧
      originalOf data e.1 = .error f ∧ keepDiffering data p = .error f := by
  induction p with
  | nil => exact .inl (List.forall_mem_nil _)
  | cons e p ih =>
    cases hold : originalOf data e.1 with
    | error f =>
      refine .inr ⟨[], e, p, f, rfl, List.forall_mem_nil _, hold, ?_⟩
      rw [keepDiffering, hold]
      rfl
    | ok old =>
      rcases ih with hreads | ⟨front, x, back, f, rfl, hfront, hx, hkeep⟩
      · exact .inl (List.forall_mem_cons.mpr ⟨⟨old, hold⟩, hreads⟩)
      · refine .inr ⟨e :: front, x, back, f, rfl,
          List.forall_mem_cons.mpr ⟨⟨old, hold⟩, hfront⟩, hx, ?_⟩
        rw [keepDiffering, hold, ok_bind, hkeep]
        rfl

/-- A changeset holds the pending entries that differ from what the record has, and answers as if it
held all of them. -/
structure IsDiff (data : Value) (p : Table) (cs : Changeset) : Prop where
  pending : ∀ name v, Table.lookup? p (.text name) = some v → ∃ old x,
    cs.getOriginal (.text name) = .ok old ∧ cs.hasChange (.text name) = .ok (!v.equals old) ∧
      cs.getField (.text name) = .ok x ∧ x.same v = true
  other : ∀ name, Table.lookup? p (.text name) = none → cs.hasChange (.text name) = .ok false ∧
    cs.getField (.text name) = cs.getOriginal (.text name)
  lacking : ∀ name, Lacks data name → cs.getOriginal (.text name) = .ok .none
  kept : ∃ t, cs.changes = .dict 0 t ∧ t.Sublist p ∧
    ∀ e ∈ p, e ∈ t ↔ ∃ old, originalOf data e.1 = .ok old ∧ e.2.equals old = false
  again : ∀ schema, ∃ cs', change data cs.changes [] schema = .ok cs' ∧ cs'.changes = cs.changes

theorem filter_differs (data : Value) (p : Table) :
    (p.filter (differs data)).filter (differs data) = p.filter (differs data) :=
  List.filter_eq_self.mpr fun _ he => (List.mem_filter.mp he).2

theorem change_eq_ok (h : Brings changes base) (hreads : Reads data (merged base named)) :
    change data changes named schema =
      .ok (new data (.dict 0 ((merged base named).filter (differs data))) schema) := by
  rw [change, h.pending_eq, ok_bind, keepDiffering_eq_ok hreads]
  rfl

theorem isDiff_new (hk : p.IsKeyed) (hh : ∀ e ∈ p, e.1.isHashable = true) (hreads : Reads data p)
    (schema : Value) : IsDiff data p (new data (.dict 0 (p.filter (differs data))) schema) where
  pending name v hl := by
    obtain ⟨e, he, hek, rfl⟩ := Table.mem_of_lookup?_eq_some hl
    obtain ⟨old, hold⟩ := hreads e he
    have hname : originalOf data (.text name) = .ok old := originalOf_name hold hek
    have hd : differs data e = !e.2.equals old := by rw [differs, hold]
    have hkept := Table.lookup?_filter hk (differs data) he hek
    refine ⟨old, _, hname, ?_, getField_of_dict rfl hname, ?_⟩
    · rw [hasChange_of_dict rfl, Table.hasKey_eq_isSome, hkept, hd]
      cases e.2.equals old <;> rfl
    · rw [hkept, hd]
      -- in place of a change that was dropped stands the original, which is equal to it
      cases hs : e.2.equals old with
      | false => exact e.2.same_refl
      | true => exact (Value.same_comm _ _).trans (Value.same_of_equals hs)
  other name hl := by
    have hnone : Table.lookup? (p.filter (differs data)) (.text name) = none := by
      rw [Table.lookup?_eq_none_iff] at hl ⊢
      exact fun e he => hl e (List.mem_filter.mp he).1
    have hchange : (new data (.dict 0 (p.filter (differs data))) schema).hasChange (.text name) =
        .ok false := by
      rw [hasChange_of_dict rfl, Table.hasKey_eq_isSome, hnone]
      rfl
    refine ⟨hchange, ?_⟩
    rw [getField, hchange]
    rfl
  lacking name hl := originalOf_of_lacks hl
  kept := by
    refine ⟨_, rfl, List.filter_sublist, fun e he => ?_⟩
    obtain ⟨old, hold⟩ := hreads e he
    have hd : differs data e = !e.2.equals old := by rw [differs, hold]
    rw [List.mem_filter, hd]
    simp [he, hold]
  again other := by
    -- what was kept differs, so that all of it is kept again
    have hb : Brings (.dict 0 (p.filter (differs data))) (p.filter (differs data)) :=
      .mapping 0 ⟨_, hk.filter _⟩ fun e he => hh e (List.mem_filter.mp he).1
    have hreads' : Reads data (merged (p.filter (differs data)) []) :=
      fun e he => hreads e (List.mem_filter.mp he).1
    refine ⟨_, change_eq_ok hb hreads', ?_⟩
    show Value.dict 0 ((p.filter (differs data)).filter (differs data)) = _
    rw [filter_differs]
    rfl

theorem reads_dict (id : Nat) (items : Table) (h : ∀ e ∈ p, e.1.isHashable = true) :
    Reads (.dict id items) p :=
  fun e he => ⟨_, originalOf_dict id items (h e he)⟩

/-- What has been put over a record differs from it where it differs from itself. -/
theorem filter_differs_overlay (id : Nat) (items : Table) (hk : p.IsKeyed)
    (hh : ∀ e ∈ p, e.1.isHashable = true) :
    p.filter (differs (.dict id (Table.ofList (items ++ p)))) =
      p.filter fun e => !e.2.equals e.2 := by
  refine List.filter_congr fun e he => ?_
  have hold := originalOf_dict id (Table.ofList (items ++ p)) (hh e he)
  rw [Table.lookup?_overlay items hk, Table.lookup?_of_mem hk he] at hold
  rw [differs, hold]
  rfl

end Diff

/-- A changeset is made of the changes that make a difference. Named changes count before those of the
mapping; what equals the record's value in any form is left out, and then the record's own value stands
for it; a changeset of what is kept is the same one, and put over a mapping the changes make no
difference to it any more, apart from values that do not even equal themselves. A field that cannot be
read stops this, the first one in order. -/
theorem change_minimal (h : Brings changes base) (data : Value) (named : List (String × Value))
    (schema : Value) : ∃ p, pending changes named = .ok p ∧
      (∀ name, Table.lookup? p (.text name) =
        (field? name named.reverse).or (Table.lookup? base (.text name))) ∧
      ((∃ cs, change data changes named schema = .ok cs ∧ IsDiff data p cs) ∨
        ∃ front e back f, p = front ++ e :: back ∧ Reads data front ∧
          originalOf data e.1 = .error f ∧ change data changes named schema = .error f) ∧
      ∀ id items, data = .dict id items →
        (∃ cs, change data changes named schema = .ok cs) ∧
        ∀ id' schema', ∃ cs, change (.dict id' (Table.ofList (items ++ p))) (.dict 0 p) [] schema' =
          .ok cs ∧ cs.changes = .dict 0 (p.filter fun e => !e.2.equals e.2) := by
  have hk : (merged base named).IsKeyed := isKeyed_merged h.isKeyed named
  have hh : ∀ e ∈ merged base named, e.1.isHashable = true := isHashable_merged h.isHashable named
  refine ⟨merged base named, h.pending_eq named, lookup?_merged base named, ?_, ?_⟩
  · rcases keepDiffering_outcome data (merged base named) with
      hreads | ⟨front, e, back, f, hp, hfront, he, hkeep⟩
    · exact .inl ⟨_, change_eq_ok h hreads, isDiff_new hk hh hreads schema⟩
    · refine .inr ⟨front, e, back, f, hp, hfront, he, ?_⟩
      rw [change, h.pending_eq, ok_bind, hkeep]
      rfl
  · rintro id items rfl
    refine ⟨⟨_, change_eq_ok h (reads_dict id items hh)⟩, fun id' schema' => ?_⟩
    have hb : Brings (.dict 0 (merged base named)) (merged base named) := .mapping 0 ⟨_, hk⟩ hh
    have hreads : Reads (.dict id' (Table.ofList (items ++ merged base named)))
        (merged (merged base named) []) := reads_dict id' _ hh
    refine ⟨_, change_eq_ok hb hreads, ?_⟩
    show Value.dict 0 ((merged base named).filter _) = _
    rw [filter_differs_overlay id' items hk hh]

/-- What is the record's value in another form is no change, nor is nothing for a field that it lacks,
and of the total the named one counts. -/
theorem change_minimal_forms :
    let paid : Value := .member (.mk "Status" .textual [("PAID", .text "paid")] []) "PAID"
      (.text "paid")
    let record : Value := .dict 1 [(.text "state", paid), (.text "count", .int 1)]
    let given : Table := [(.text "state", .text "paid"), (.text "count", .bool true),
      (.text "note", .none), (.text "total", .int 2)]
    let p : Table := [(.text "state", .text "paid"), (.text "count", .bool true),
      (.text "note", .none), (.text "total", .int 3)]
    Brings (.dict 2 given) given ∧
      ∃ cs, change record (.dict 2 given) [("total", .int 3)] .none = .ok cs ∧
        cs.changes = .dict 0 [(.text "total", .int 3)] ∧ IsDiff record p cs := by
  intro paid record given p
  have hkeyed : given.IsKeyed := by
    unfold Table.IsKeyed
    decide
  have hnames : ∀ e ∈ given, e.1.isHashable = true := by decide
  have hbrings : Brings (.dict 2 given) given := .mapping 2 ⟨given, hkeyed⟩ hnames
  refine ⟨hbrings, ?_⟩
  obtain ⟨p', hp, _, hout, _⟩ := change_minimal hbrings record [("total", .int 3)] .none
  have hpending : pending (.dict 2 given) [("total", .int 3)] = .ok p := rfl
  rw [hpending] at hp
  cases hp
  have hchange : change record (.dict 2 given) [("total", .int 3)] .none =
      .ok (new record (.dict 0 [(.text "total", .int 3)]) .none) := rfl
  rcases hout with ⟨cs, hcs, hdiff⟩ | ⟨_, _, _, f, _, _, _, hf⟩
  · rw [hchange] at hcs
    cases hcs
    exact ⟨_, hchange, rfl, hdiff⟩
  · rw [hchange] at hf
    contradiction

/-- A float that is no number is a change even to the record that it has been put over. -/
theorem change_overlaid_nan :
    let record : Table := [(.text "a", .int 1)]
    let p : Table := [(.text "a", .nan 1)]
    pending (.dict 2 p) [] = .ok p ∧ Table.ofList (record ++ p) = p ∧
      ∃ cs, change (.dict 3 (Table.ofList (record ++ p))) (.dict 2 p) [] .none = .ok cs ∧
        cs.changes = .dict 0 [(.text "a", .nan 1)] :=
  ⟨rfl, rfl, _, rfl, rfl⟩

end Changeset

end Lifecycle
