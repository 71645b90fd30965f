import Lifecycle.Proofs.Success
import Lifecycle.Proofs.Table
import Lifecycle.Validation

namespace Lifecycle

namespace Changeset

variable {cs : Changeset} {data changes schema : Value} {named : List (String × Value)} {id : Nat}
  {items : Table} {field : String}

theorem of_change (h : change data changes named schema = .ok cs) :
    cs.data = data ∧ (∃ items, cs.changes = .dict 0 items) ∧ cs.errors = [] := by
  simp only [change, bind_eq_ok, pure_eq_ok] at h
  obtain ⟨_, _, kept, _, rfl⟩ := h
  exact ⟨rfl, ⟨kept, rfl⟩, rfl⟩

theorem hasChange_of_dict (hd : cs.changes = .dict id items) :
    cs.hasChange (.text field) = .ok (Table.hasKey items (.text field)) := by
  rw [hasChange, hd]
  rfl

theorem getField_of_dict (hd : cs.changes = .dict id items) {old : Value}
    (ho : cs.getOriginal (.text field) = .ok old) :
    cs.getField (.text field) = .ok ((Table.lookup? items (.text field)).getD old) := by
  unfold getField
  rw [hasChange_of_dict hd, ok_bind, hd, Table.hasKey_eq_isSome]
  cases hl : Table.lookup? items (.text field) with
  | none => exact ho
  | some v =>
    show (Table.lookup items (.text field) >>= _ : Except Fault Value) = .ok v
    rw [Table.lookup, hl]
    rfl

end Changeset

end Lifecycle
