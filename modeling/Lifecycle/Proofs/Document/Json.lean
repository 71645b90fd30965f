import Lifecycle.Document.Json
import Lifecycle.Proofs.Table

namespace Lifecycle

namespace Table

/-- Every entry stands under a plain text. -/
def HasTextNames (t : Table) : Prop := ∀ e ∈ t, ∃ n, e.1 = .text n

theorem hasTextNames_ofList {items : Table} (h : HasTextNames items) :
    HasTextNames (ofList items) := by
  intro e he
  have hk : e.1 ∈ keys items := mem_keys_ofList (List.mem_map_of_mem he)
  obtain ⟨f, hf, hfe⟩ := List.mem_map.mp hk
  rw [← hfe]
  exact h f hf

end Table

namespace Document.Json

open Table

theorem hasTextNames_of_readMembers {room fuel : Nat} {cs rest : List Char} {items : Table}
    (h : readMembers room fuel cs = .ok (items, rest)) : HasTextNames items := by
  -- on the fuel, of which each member takes some: its name has been read as text
  induction fuel generalizing cs items rest with
  | zero =>
    rw [readMembers] at h
    cases h
  | succ fuel ih =>
    rw [readMembers.eq_def] at h
    simp only [bind, Except.bind] at h
    split at h
    · split at h
      · cases h
      · split at h
        · split at h
          · cases h
          · split at h
            · cases h
              intro e he
              rw [List.mem_singleton.mp he]
              exact ⟨_, rfl⟩
            · split at h
              · cases h
              next hmembers =>
                cases h
                intro e he
                rcases List.mem_cons.mp he with rfl | he
                · exact ⟨_, rfl⟩
                · exact ih hmembers e he
            · cases h
        · cases h
    · cases h

theorem readWord_ne_dict {cs rest : List Char} {id : Nat} {items : Table} :
    readWord cs ≠ some (.dict id items, rest) := by
  intro h
  obtain ⟨⟨word, v⟩, hmem, hv⟩ := List.exists_of_findSome?_eq_some h
  obtain ⟨r, _, he⟩ := Option.map_eq_some_iff.mp hv
  have hv : v = .dict id items := congrArg Prod.fst he
  subst hv
  simp [Value.nan] at hmem

theorem readNumber_ne_dict {cs rest : List Char} {id : Nat} {items : Table} :
    readNumber cs ≠ .ok (.dict id items, rest) := by
  intro h
  unfold readNumber at h
  simp only [bind, Except.bind] at h
  split at h
  · cases h
  · split at h
    · split at h
      · cases h
      · cases h
    · cases h

theorem hasTextNames_of_readValue {room fuel : Nat} {cs rest : List Char} {id : Nat}
    {items : Table} (h : readValue room fuel cs = .ok (.dict id items, rest)) :
    HasTextNames items := by
  rw [readValue.eq_def] at h
  split at h
  · cases h
  · split at h
    · obtain ⟨_, _, he⟩ := exists_of_map_eq_ok h
      cases he
    · split at h
      · cases h
      · cases h
      · obtain ⟨_, _, he⟩ := exists_of_map_eq_ok h
        cases he
    · split at h
      · cases h
      · cases h
        exact fun _ he => nomatch he
      · obtain ⟨⟨members, r⟩, hm, he⟩ := exists_of_map_eq_ok h
        cases he
        exact hasTextNames_ofList (hasTextNames_of_readMembers hm)
    · split at h
      next read hread =>
        cases h
        exact absurd hread readWord_ne_dict
      next => exact absurd h readNumber_ne_dict

theorem hasTextNames_of_read {written : String} {id : Nat} {items : Table}
    (h : read written = .ok (.dict id items)) : HasTextNames items := by
  unfold read at h
  simp only [bind, Except.bind] at h
  split at h
  · cases h
  next found hread =>
    obtain ⟨v, rest⟩ := found
    split at h
    · cases h
      exact hasTextNames_of_readValue hread
    · cases h

end Document.Json

end Lifecycle
