import Lifecycle.Proofs.Store.Write

namespace Lifecycle

namespace Write

variable {t after : Relation} {w : Write}

theorem commit_eq_ok (h : w.commit t = .ok after) : ∃ n, w.run t = .ok (after, n) ∧ n ≠ 0 := by
  simp only [commit, bind_eq_ok] at h
  obtain ⟨⟨after, n⟩, hr, h⟩ := h
  by_cases hn : n = 0
  · rw [if_pos hn] at h
    obtain ⟨_, h, _⟩ := bind_eq_ok.mp h
    exact absurd h throw_ne_ok
  · rw [if_neg hn] at h
    cases h
    exact ⟨n, hr, hn⟩

end Write

namespace Changeset

variable {t after : Relation} {cs : Changeset} {key : String} {lock : Option String} {v : Value}
  {world world' : World}

theorem apply_eq_ok (h : (cs.apply t key lock).run.run world = (.ok (after, v), world')) :
    cs.isValid = true ∧ ∃ w, Write.ofChangeset t cs key lock = .ok w ∧
      w.commit t = .ok after ∧ w.version = v := by
  unfold apply at h
  cases hv : cs.isValid with
  | false =>
    simp only [hv, Bool.not_false, if_true] at h
    obtain ⟨_, _, _, h⟩ := Act.bind_runs_ok.mp h
    obtain ⟨_, _, h, _⟩ := Act.bind_runs_ok.mp h
    exact absurd h Act.throw_runs_ne_ok
  | true =>
    simp only [hv, Bool.not_true, Bool.false_eq_true, if_false, Act.bind_runs_ok,
      Act.ofExcept_runs_ok] at h
    obtain ⟨w, _, ⟨hw, _⟩, after, _, ⟨hc, _⟩, _, _, _, h⟩ := h
    cases h
    exact ⟨rfl, w, hw, hc, rfl⟩

end Changeset

end Lifecycle
