import Lifecycle.Proofs.Collection
import Lifecycle.Rules

namespace Lifecycle

namespace Value

theorem key_of_text? {v : Value} {s : String} (h : v.text? = some s) :
    v.key = Key.leaf (.text s) := by
  unfold text? at h
  split at h <;> simp_all [key]

theorem key_of_isWildcard {v : Value} (h : v.isWildcard = true) : v.key = (text "*").key := by
  simp only [isWildcard, decide_eq_true_eq] at h
  rw [key_of_text? h, key]

theorem isWildcard_of_not_same {v : Value} (h : v.same (text "*") = false) :
    v.isWildcard = false := by
  cases hw : v.isWildcard with
  | false => rfl
  | true =>
    have hs : v.same (text "*") = true := same_iff.mpr (key_of_isWildcard hw)
    rw [hs] at h
    contradiction

end Value

namespace Pair

theorem key_value_eq_iff {p q : Pair} :
    (Pair.value p).key = (Pair.value q).key ↔ p.1.key = q.1.key ∧ p.2.key = q.2.key := by
  simp [Pair.value, Value.key, keysOf, Key.shape]

theorem isHashable_value {p : Pair} :
    (Pair.value p).isHashable = (p.1.isHashable && p.2.isHashable) := by
  simp only [Pair.value, Value.isHashable, Value.mutablePart?, mutablePartOf?]
  cases p.1.mutablePart? <;> cases p.2.mutablePart? <;> rfl

end Pair

/-- A matcher judges equal values alike, as far as they can stand in a set. -/
theorem Matcher.allowed_congr (m : Matcher) {u u' v v' : Value} (hu : u.key = u'.key)
    (hv : v.key = v'.key)
    (hh : (u.isHashable && v.isHashable) = (u'.isHashable && v'.isHashable)) :
    m.allowed u v = m.allowed u' v' := by
  have hk : (Pair.value (u, v)).key = (Pair.value (u', v')).key :=
    Pair.key_value_eq_iff.mpr ⟨hu, hv⟩
  rw [allowed, allowed, Pair.isHashable_value, Pair.isHashable_value, hh, holds_congr hk]

end Lifecycle
