import Lifecycle.Proofs.Fields
import Lifecycle.Proofs.Store.Cell

namespace Lifecycle

namespace Row

variable {r : Row} {column : String}

theorem field?_eq_cell (h : column ∈ r.map (·.1)) : field? column r = some (r.cell column) := by
  obtain ⟨c, hc⟩ := Option.isSome_iff_exists.mp ((field?_isSome_iff column r).mpr h)
  rw [cell, hc, Option.getD_some]

theorem cell_of_not_mem (h : column ∉ r.map (·.1)) : r.cell column = .null := by
  rw [← field?_isSome_iff, Option.not_isSome_iff_eq_none] at h
  rw [cell, h, Option.getD_none]

theorem names_overwrite (r : Row) (cells : List (String × Cell)) :
    (r.overwrite cells).map (·.1) = r.map (·.1) := by
  rw [overwrite, List.map_map]
  rfl

theorem cell_overwrite (h : column ∈ r.map (·.1)) (cells : List (String × Cell)) :
    (r.overwrite cells).cell column = (field? column cells).getD (r.cell column) := by
  have ho : field? column (r.overwrite cells) =
      (field? column r).map fun c => (field? column cells).getD c :=
    field?_map (fun n c => (field? n cells).getD c) column r
  rw [cell, ho, field?_eq_cell h]
  rfl

/-- What tells the rows of a table apart. -/
def id (key : String) (r : Row) : Key := (r.cell key).toValue.key

/-- Data has a row's cell in a column, if it has anything there that the store takes. -/
def GivenBy (r : Row) (data : Value) (column : String) : Prop :=
  ∀ v c, Changeset.originalOf data (.text column) = .ok v → Cell.ofValue v = .ok c →
    c = r.cell column

/-- A column that a row has is read as it is, or hidden by something that the store does not take.
-/
theorem columnOf?_of_field? {columns : List (String × Value)} {w : Value}
    (h : field? column columns = some w) :
    ∃ v, Value.columnOf? columns column = some v ∧ (v = w ∨ ∃ f, Cell.ofValue v = .error f) := by
  unfold Value.columnOf?
  rw [h]
  split
  · exact ⟨_, rfl, .inr ⟨_, rfl⟩⟩
  · split
    · exact ⟨_, rfl, .inr ⟨_, rfl⟩⟩
    · split
      · exact ⟨_, rfl, .inr ⟨_, rfl⟩⟩
      · exact ⟨_, rfl, .inl rfl⟩

theorem field?_value (h : column ∈ r.map (·.1)) :
    field? column (r.map fun f => (f.1, f.2.toValue)) = some (r.cell column).toValue := by
  have hm := field?_map (fun _ c => Cell.toValue c) column r
  rw [hm, field?_eq_cell h]
  rfl

theorem originalOf_value {v : Value}
    (h : Value.columnOf? (r.map fun f => (f.1, f.2.toValue)) column = some v) :
    Changeset.originalOf r.value (.text column) = .ok v := by
  have ha : r.value.attribute? column = some v := by
    unfold Value.attribute?
    show (Value.columnOf? (r.map fun f => (f.1, f.2.toValue)) column <|> _ : Option Value) = some v
    rw [h]
    rfl
  show (r.value.lookup column >>= fun o => pure (o.getD .none)) = .ok v
  rw [Value.lookup_of_attribute ha]
  rfl

/-- The names under which every row has something else than a column. -/
def ownNames : List String := ["t", "_t", "tuple", "_tuple", "_asdict", "_fields"]

/-- A row as a value reads back its cells, but for the columns that the names of every row hide. -/
theorem originalOf_value_eq_cell (h : column ∈ r.map (·.1)) (hn : column ∉ ownNames) :
    Changeset.originalOf r.value (.text column) = .ok (r.cell column).toValue := by
  simp only [ownNames, List.mem_cons, List.not_mem_nil, or_false, not_or] at hn
  apply originalOf_value
  unfold Value.columnOf?
  rw [field?_value h]
  simp [hn]

theorem givenBy_value (h : column ∈ r.map (·.1)) : r.GivenBy r.value column := by
  obtain ⟨v, hv, hor⟩ := columnOf?_of_field? (field?_value h)
  intro w c hw hc
  rw [originalOf_value hv] at hw
  cases hw
  rcases hor with rfl | ⟨f, hf⟩
  · exact Cell.eq_of_ofValue_toValue hc
  · rw [hf] at hc
    cases hc

end Row

end Lifecycle
