import Lifecycle.Proofs.Collection
import Lifecycle.Proofs.Value.Equality
import Lifecycle.Store.Apply

namespace Lifecycle

namespace Value

variable {v : Value} {n : Int}

theorem key_of_int? (h : v.int? = some n) : v.key = Key.int n := by
  unfold int? at h
  split at h
  · simp only [Option.some.injEq] at h
    rw [key, Key.bool, h]
  · simp only [Option.some.injEq] at h
    rw [key, h]
  · simp only [Option.some.injEq] at h
    simp only [key, h]
  · contradiction

theorem truth_of_int? (h : v.int? = some n) : v.truth = decide (n ≠ 0) := by
  unfold int? at h
  split at h
  · simp only [Option.some.injEq] at h
    subst h
    rename_i b
    cases b <;> rfl
  · simp only [Option.some.injEq] at h
    rw [truth, h]
  · simp only [Option.some.injEq] at h
    simp only [truth, h]
  · contradiction

end Value

theorem Key.int_inj {m n : Int} (h : Key.int m = Key.int n) : m = n := by
  simpa [Key.int, Key.leaf, Exact.ofInt] using h

namespace Cell

variable {v : Value} {c : Cell} {n : Int} {s : String}

theorem ofValue_eq_ok (h : ofValue v = .ok c) :
    (v = .none ∧ c = null) ∨ (∃ x, v = .float x ∧ c = real x) ∨
      (∃ bs, v = .bytes bs ∧ c = blob bs) ∨ (∃ s, v.text? = some s ∧ c = text s) ∨
        ∃ n, v.int? = some n ∧ fitsWord n = true ∧ c = int n := by
  unfold ofValue at h
  split at h
  · exact .inl ⟨rfl, (Except.ok.inj h).symm⟩
  · exact .inr (.inl ⟨_, rfl, (Except.ok.inj h).symm⟩)
  · exact .inr (.inr (.inl ⟨_, rfl, (Except.ok.inj h).symm⟩))
  · split at h
    next s hs => exact .inr (.inr (.inr (.inl ⟨s, hs, (Except.ok.inj h).symm⟩)))
    next n _ hn =>
      split at h
      next hf => exact .inr (.inr (.inr (.inr ⟨n, hn, hf, (Except.ok.inj h).symm⟩)))
      next => cases h
    next => cases h

theorem eq_none_of_ofValue (h : ofValue v = .ok null) : v = .none := by
  obtain ⟨hv, _⟩ | ⟨_, _, hc⟩ | ⟨_, _, hc⟩ | ⟨_, _, hc⟩ | ⟨_, _, _, hc⟩ := ofValue_eq_ok h
  · exact hv
  · cases hc
  · cases hc
  · cases hc
  · cases hc

theorem int?_of_ofValue (h : ofValue v = .ok (int n)) : v.int? = some n := by
  obtain ⟨_, hc⟩ | ⟨_, _, hc⟩ | ⟨_, _, hc⟩ | ⟨_, _, hc⟩ | ⟨m, hm, _, hc⟩ := ofValue_eq_ok h
  · cases hc
  · cases hc
  · cases hc
  · cases hc
  · cases hc
    exact hm

/-- A value sent to the store comes back as one that equals it. -/
theorem key_of_ofValue (h : ofValue v = .ok c) : c.toValue.key = v.key := by
  obtain ⟨rfl, rfl⟩ | ⟨_, rfl, rfl⟩ | ⟨_, rfl, rfl⟩ | ⟨s, hs, rfl⟩ | ⟨n, hn, _, rfl⟩ :=
    ofValue_eq_ok h
  · rfl
  · rfl
  · rfl
  · rw [Value.key_of_text? hs, toValue, Value.key]
  · rw [Value.key_of_int? hn, toValue, Value.key]

theorem eq_of_ofValue_toValue {c' : Cell} (h : ofValue c.toValue = .ok c') : c' = c := by
  cases c with
  | null => exact (Except.ok.inj h).symm
  | real x => exact (Except.ok.inj h).symm
  | text s => exact (Except.ok.inj h).symm
  | blob bs => exact (Except.ok.inj h).symm
  | int n =>
    simp only [toValue, ofValue, Value.text?, Value.int?] at h
    split at h
    · exact (Except.ok.inj h).symm
    · cases h

theorem wholeReal_eq (x : Binary64) : (∃ n, wholeReal x = int n) ∨ wholeReal x = real x := by
  unfold wholeReal
  split
  · split
    · exact .inl ⟨_, rfl⟩
    · exact .inr rfl
  · exact .inr rfl

theorem number?_eq_some (h : number? s = some c) : (∃ n, c = int n) ∨ ∃ x, c = wholeReal x := by
  -- whatever the parts of the number are, it ends up whole or as a real
  unfold number? at h
  dsimp only at h
  split at h
  all_goals
    split at h
    · cases h
    · obtain ⟨exponent, _, hc⟩ := Option.map_eq_some_iff.mp h
      split at hc
      · exact .inl ⟨_, hc.symm⟩
      · exact .inr ⟨_, hc.symm⟩

theorem wholeReal_ne_null (x : Binary64) : wholeReal x ≠ null := by
  obtain ⟨n, h⟩ | h := wholeReal_eq x
  · simp [h]
  · simp [h]

theorem conform_ne_null (t : ColumnType) (h : c ≠ null) : conform t c ≠ null := by
  cases t with
  | int =>
    cases c with
    | text s =>
      rw [conform]
      cases hn : number? s with
      | none => exact h
      | some d =>
        obtain ⟨n, rfl⟩ | ⟨x, rfl⟩ := number?_eq_some hn
        · simp
        · exact wholeReal_ne_null x
    | real x => exact wholeReal_ne_null x
    | null => exact h
    | int n => exact h
    | blob bs => exact h
  | text => cases c <;> simp_all [conform]

theorem toValue_key_eq_none : c.toValue.key = Value.none.key ↔ c = null := by
  constructor
  · intro h
    cases c with
    | null => rfl
    | real x => cases x <;> cases h
    | int n => cases h
    | text s => cases h
    | blob bs => cases h
  · rintro rfl
    rfl

def IsVersion (c : Cell) : Prop := c = null ∨ ∃ n, c = int n

def version : Cell → Int
  | int n => n
  | _ => 0

theorem nextVersion_of_ofValue {w : Value} (hc : ofValue v = .ok c) (hv : c.IsVersion)
    (h : nextVersion v = .ok w) : w = .int (c.version + 1) := by
  rcases hv with rfl | ⟨n, rfl⟩
  · rw [eq_none_of_ofValue hc] at h
    exact (Except.ok.inj h).symm
  · have hn := int?_of_ofValue hc
    have ht := Value.truth_of_int? hn
    -- a version of zero counts as none, to which one is added all the same
    unfold nextVersion at h
    by_cases hz : n = 0
    · subst hz
      rw [ht, if_neg (by decide)] at h
      exact (Except.ok.inj h).symm
    · rw [ht, if_pos (by simpa using hz)] at h
      split at h
      · cases hn
      next m hm =>
        rw [hn] at hm
        cases hm
        exact (Except.ok.inj h).symm
      next hm =>
        rw [hn] at hm
        cases hm

theorem eq_of_key_eq {c' : Cell} (hc : c.IsVersion) (hc' : c'.IsVersion)
    (h : c.toValue.key = c'.toValue.key) : c = c' := by
  rcases hc with rfl | ⟨m, rfl⟩
  · rcases hc' with rfl | ⟨n, rfl⟩
    · rfl
    · cases h
  · rcases hc' with rfl | ⟨n, rfl⟩
    · cases h
    · rw [toValue, toValue, Value.key, Value.key] at h
      rw [Key.int_inj h]

theorem isHashable_of_ofValue (h : ofValue v = .ok c) : v.isHashable = true := by
  cases v with
  | list => cases h
  | set => cases h
  | dict => cases h
  | tuple => cases h
  | bundle => cases h
  | row => cases h
  | strategy => cases h
  | changeset => cases h
  | fieldError => cases h
  | _ => rfl

theorem isHashable_toValue (c : Cell) : c.toValue.isHashable = true := by cases c <;> rfl

/-- A matcher takes what comes back from the store for what was sent. -/
theorem allowed_of_ofValue (m : Matcher) (u : Value) (h : ofValue v = .ok c) :
    m.allowed u c.toValue = m.allowed u v := by
  have hh : (u.isHashable && c.toValue.isHashable) = (u.isHashable && v.isHashable) := by
    rw [isHashable_toValue, isHashable_of_ofValue h]
  exact m.allowed_congr rfl (key_of_ofValue h) hh

end Cell

end Lifecycle
