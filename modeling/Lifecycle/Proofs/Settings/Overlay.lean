import Lifecycle.Proofs.Table
import Lifecycle.Proofs.Validation

namespace Lifecycle

/-- What is found is what was given, or a table stands in its place. -/
def OrTable (found given : Option Value) : Prop :=
  found = given ∨ ∃ id t, found = some (.dict id t)

namespace OrTable

variable {m u v g d : Option Value}

theorem refl (m : Option Value) : OrTable m m := .inl rfl

theorem or_left (h : OrTable m (u <|> d)) (hu : OrTable u g) : OrTable m (g <|> d) := by
  rcases hu with rfl | ⟨id, t, rfl⟩
  · exact h
  · rcases h with rfl | h
    · exact .inr ⟨id, t, rfl⟩
    · exact .inr h

theorem or_right (h : OrTable m (u <|> v)) (hv : OrTable v g) : OrTable m (u <|> g) := by
  rcases hv with rfl | ⟨id, t, rfl⟩
  · exact h
  · rcases h with rfl | h
    · cases u with
      | none => exact .inr ⟨id, t, rfl⟩
      | some x => exact .inl rfl
    · exact .inr h

end OrTable

theorem overlaid_dict_of_ne {below : Option Value} {id : Nat} {upper : Table}
    (h : ∀ id lower, below ≠ some (.dict id lower)) :
    overlaid below (.dict id upper) = .dict 0 upper := by
  unfold overlaid
  split
  next id' lower => exact absurd rfl (h id' lower)
  next => rfl

theorem overlaid_orTable (below : Option Value) (v : Value) :
    OrTable (some (overlaid below v)) (some v) := by
  cases v with
  | dict id upper =>
    refine .inr ⟨0, ?_⟩
    unfold overlaid
    split <;> exact ⟨_, rfl⟩
  | _ => exact .inl rfl

/-- What a section has for a leaf, if it is a table. -/
def sectionLeaf? (v? : Option Value) (leaf : String) : Option Value :=
  match v? with
  | some (.dict _ below) => Table.lookup? below (.text leaf)
  | _ => none

namespace Layer

variable {base upper : Layer}

theorem isKeyed_overlay (h : Table.IsKeyed base) (upper : Layer) :
    Table.IsKeyed (overlay base upper) := by
  induction upper generalizing base with
  | nil => exact h
  | cons e upper ih =>
    rw [overlay]
    exact ih (Table.isKeyed_put h _ _)

/-- Where the upper layer has a value it is laid over that of the lower one, which counts elsewhere. -/
theorem lookup?_overlay (hk : Table.IsKeyed upper) (k : Value) :
    Table.lookup? (overlay base upper) k = match Table.lookup? upper k with
      | some v => some (overlaid (Table.lookup? base k) v)
      | none => Table.lookup? base k := by
  induction upper generalizing base with
  | nil => rfl
  | cons e upper ih =>
    obtain ⟨he, hk⟩ := List.pairwise_cons.mp hk
    rw [overlay, ih hk, Table.lookup?_cons, Table.lookup?_put]
    by_cases h : e.1.key = k.key
    · have hnone : Table.lookup? upper k = none :=
        Table.lookup?_eq_none_iff.mpr fun f hf => h ▸ (he f hf).symm
      rw [hnone, if_pos h.symm, if_pos h, Table.lookup?_congr h]
    · rw [if_neg (Ne.symm h), if_neg h]

theorem lookup?_overlay_orTable (hk : Table.IsKeyed upper) (k : Value) :
    OrTable (Table.lookup? (overlay base upper) k)
      (Table.lookup? upper k <|> Table.lookup? base k) := by
  rw [lookup?_overlay hk]
  cases Table.lookup? upper k with
  | none => exact .inl rfl
  | some v => exact overlaid_orTable _ v

/-- What a layer has for a leaf of the section. -/
def leaf? (t : Layer) (leaf : String) : Option Value :=
  sectionLeaf? (Table.lookup? t (.text "validator")) leaf

theorem leaf?_of_ne {t : Layer} {leaf : String}
    (h : ∀ id below, Table.lookup? t (.text "validator") ≠ some (.dict id below)) :
    t.leaf? leaf = none := by
  unfold leaf? sectionLeaf?
  split
  next id below hl => exact absurd hl (h id below)
  next => rfl

/-- A layer whose section, if it has one, is a table. -/
structure IsLayered (t : Layer) : Prop where
  keyed : Table.IsKeyed t
  isSection : ∀ v, Table.lookup? t (.text "validator") = some v → v.IsMapping

theorem isLayered_overlay (hb : IsLayered base) (hu : IsLayered upper) :
    IsLayered (overlay base upper) where
  keyed := isKeyed_overlay hb.keyed upper
  isSection v hv := by
    rw [lookup?_overlay hu.keyed] at hv
    cases hl : Table.lookup? upper (.text "validator") with
    | none =>
      rw [hl] at hv
      exact hb.isSection v hv
    | some w =>
      rw [hl] at hv
      obtain ⟨id, items, rfl⟩ := hu.isSection w hl
      obtain rfl := Option.some.inj hv
      unfold overlaid
      split
      next lower hlower =>
        obtain ⟨_, below, he⟩ := hb.isSection _ hlower
        cases he
        exact ⟨0, ⟨_, isKeyed_overlay below.2 items.1⟩, rfl⟩
      next => exact ⟨0, items, rfl⟩

/-- Sections are laid over each other leaf by leaf. -/
theorem leaf?_overlay_orTable (hu : IsLayered upper) (leaf : String) :
    OrTable ((overlay base upper).leaf? leaf) (upper.leaf? leaf <|> base.leaf? leaf) := by
  rw [leaf?, lookup?_overlay hu.keyed]
  cases hl : Table.lookup? upper (.text "validator") with
  | none =>
    have hupper : upper.leaf? leaf = none := by simp only [leaf?, sectionLeaf?, hl]
    rw [hupper]
    exact .inl rfl
  | some w =>
    obtain ⟨id, items, rfl⟩ := hu.isSection w hl
    have hupper : upper.leaf? leaf = Table.lookup? items.1 (.text leaf) := by
      simp only [leaf?, sectionLeaf?, hl]
    rw [hupper]
    dsimp only
    by_cases hb : ∃ id' lower, Table.lookup? base (.text "validator") = some (.dict id' lower)
    · obtain ⟨id', lower, hb⟩ := hb
      have hbase : base.leaf? leaf = Table.lookup? lower (.text leaf) := by
        simp only [leaf?, sectionLeaf?, hb]
      rw [hbase, hb]
      exact lookup?_overlay_orTable items.2 _
    · have hno : ∀ id' lower, Table.lookup? base (.text "validator") ≠ some (.dict id' lower) :=
        fun id' lower h => hb ⟨id', lower, h⟩
      rw [overlaid_dict_of_ne hno, leaf?_of_ne hno]
      exact .inl (by simp [sectionLeaf?])

end Layer

namespace Settings

variable {α : Type}

/-- A setting is what the given value is coerced to, or a default where none is given. -/
def Supplied (coerce : Value → Except IssueKind α) (default : α) (given : Option Value) (x : α) :
    Prop :=
  match given with
  | some v => coerce v = .ok x
  | none => x = default

variable {coerce : Value → Except IssueKind α} {default : α}

/-- No setting is made of a table, so that one in the place of a given value does no harm. -/
theorem Supplied.of_orTable (hr : ∀ id t x, coerce (.dict id t) ≠ .ok x) {found given : Option Value}
    {x : α} (h : Supplied coerce default found x) (ho : OrTable found given) :
    Supplied coerce default given x := by
  rcases ho with rfl | ⟨id, t, rfl⟩
  · exact h
  · exact absurd h (hr id t x)

theorem truth_dict_ne_ok (id : Nat) (t : Table) (b : Bool) :
    Coercion.truth (.dict id t) ≠ .ok b := by
  simp [Coercion.truth, Value.text?, Value.int?]

theorem text_dict_ne_ok (id : Nat) (t : Table) (s : String) :
    Coercion.text (.dict id t) ≠ .ok s := by
  simp [Coercion.text, Value.text?]

theorem supplied_of_leaf {t : Layer} {path : List String} {name : String} {x : α}
    (h : (leaf t path name default coerce).value? = some x) :
    Supplied coerce default (Table.lookup? t (.text name)) x := by
  unfold leaf at h
  cases hl : Table.lookup? t (.text name) with
  | none =>
    rw [hl] at h
    exact (Option.some.inj h).symm
  | some v =>
    rw [hl] at h
    exact Checked.value?_ofExcept.mp h

theorem supplied_of_checkSection {t : Layer} {d : ValidatorDefaults}
    (h : (checkSection t).value? = some d) :
    Supplied Coercion.text "can_transit" (t.leaf? "name") d.name ∧
      Supplied Coercion.text "cannot transit from \x7bold\x7d to \x7bnew\x7d" (t.leaf? "message")
        d.message ∧
      Supplied Coercion.truth true (t.leaf? "required") d.required ∧
      Supplied Coercion.text "None" (t.leaf? "absent_token") d.absentToken := by
  unfold checkSection at h
  unfold Layer.leaf? sectionLeaf?
  cases hl : Table.lookup? t (.text "validator") with
  | none =>
    rw [hl] at h
    obtain rfl := Option.some.inj h
    exact ⟨rfl, rfl, rfl, rfl⟩
  | some v =>
    rw [hl] at h
    cases v with
    | dict id below =>
      obtain ⟨⟨⟨⟨n, m⟩, r⟩, a⟩, hall, rfl⟩ := Checked.value?_map.mp h
      obtain ⟨hrest, ha⟩ := Checked.value?_both.mp hall
      obtain ⟨hrest, hr⟩ := Checked.value?_both.mp hrest
      obtain ⟨hn, hm⟩ := Checked.value?_both.mp hrest
      exact ⟨supplied_of_leaf hn, supplied_of_leaf hm, supplied_of_leaf hr, supplied_of_leaf ha⟩
    | _ => cases h

end Settings

end Lifecycle
