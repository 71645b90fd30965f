import Lifecycle.Enumeration
import Lifecycle.Proofs.Success
import Lifecycle.Proofs.Value.Equality

namespace Lifecycle

namespace Value

/-- A member of texts has a text, and a member of numbers a number. -/
def IsMade : Value → Prop
  | .member (.mk _ .plain ..) .. => True
  | .member (.mk _ .textual ..) _ v | .member (.mk _ .namedText ..) _ v => ∃ s, v = .text s
  | .member (.mk _ .numeric ..) _ v => ∃ n, v = .int n
  | _ => True

end Value

abbrev MadeValue := {v : Value // v.IsMade}

namespace Value

theorem text?_of_key {v : Value} {s : String} (hv : v.IsMade) (h : v.key = Key.leaf (.text s)) :
    v.text? = some s := by
  cases v with
  | text => simpa [key, Key.leaf, text?] using h
  | member of name value =>
    rcases of with ⟨e, _ | _ | _ | _, ms, as⟩
    · simp [key, Key.leaf] at h
    · obtain ⟨t, rfl⟩ := hv
      simpa [key, Key.leaf, text?] using h
    · obtain ⟨t, rfl⟩ := hv
      simpa [key, Key.leaf, text?] using h
    · obtain ⟨n, rfl⟩ := hv
      simp [key, Key.leaf, Key.int] at h
  | float x => cases x <;> simp [key, Key.leaf, Key.float] at h
  | range start stop step =>
    simp only [key, rangeKey] at h
    split at h <;> simp [Key.shape, Key.leaf] at h
  | strategy id st => cases st <;> simp [key, strategyKey, Key.shape, Key.leaf] at h
  | enumeration e | owner e | hook e | matcher e | changeset e | fieldError e =>
    cases e
    simp [key, FieldError.key, Key.shape, Key.leaf] at h
  | _ => simp_all [key, Key.leaf, Key.bool, Key.int, Key.shape, Key.pair]

theorem isWildcard_congr {u v : Value} (hu : u.IsMade) (hv : v.IsMade) (h : u.key = v.key) :
    u.isWildcard = v.isWildcard := by
  have hone : ∀ {a b : Value}, b.IsMade → a.key = b.key → a.isWildcard = true →
      b.isWildcard = true := by
    intro a b hb hab ha
    have hk : b.key = Key.leaf (.text "*") := hab ▸ key_of_isWildcard ha
    simp [isWildcard, text?_of_key hb hk]
  exact Bool.eq_iff_iff.mpr ⟨hone hv h, hone hu h.symm⟩

end Value

namespace Enumeration

variable {kind : EnumKind} {declared : List (String × Value)}

theorem isMade_of_memberValue {v w : Value} (h : memberValue kind v = .ok w) (e n : String)
    (ms : List (String × Value)) (as : List (String × String)) :
    (Value.member (.mk e kind ms as) n w).IsMade := by
  cases kind with
  | plain => trivial
  | textual =>
    simp only [memberValue, bind_eq_ok, pure_eq_ok] at h
    obtain ⟨_, _, s, _, rfl⟩ := h
    exact ⟨s, rfl⟩
  | namedText =>
    simp only [memberValue, bind_eq_ok, pure_eq_ok] at h
    obtain ⟨s, _, rfl⟩ := h
    exact ⟨s, rfl⟩
  | numeric =>
    simp only [memberValue, bind_eq_ok, pure_eq_ok] at h
    obtain ⟨n, _, rfl⟩ := h
    exact ⟨n, rfl⟩

theorem mem_collect {members ms : List (String × Value)} {aliases as : List (String × String)}
    (h : collect kind members aliases declared = .ok (ms, as)) {m : String × Value} (hm : m ∈ ms) :
    m ∈ members ∨ ∃ x ∈ declared, memberValue kind x.2 = .ok m.2 := by
  induction declared generalizing members aliases with
  | nil =>
    cases h
    exact .inl hm
  | cons x declared ih =>
    rw [collect, bind_eq_ok] at h
    obtain ⟨v, hv, h⟩ := h
    cases hh : holder? members v with
    | some found =>
      simp only [hh] at h
      rcases ih h with hm | ⟨y, hy, hym⟩
      · exact .inl hm
      · exact .inr ⟨y, List.mem_cons_of_mem _ hy, hym⟩
    | none =>
      simp only [hh] at h
      rcases ih h with hm | ⟨y, hy, hym⟩
      · rcases List.mem_append.mp hm with hm | hm
        · exact .inl hm
        · rw [List.mem_singleton.mp hm]
          exact .inr ⟨x, List.mem_cons_self, hv⟩
      · exact .inr ⟨y, List.mem_cons_of_mem _ hy, hym⟩

/-- Declaring gives every member a value of its kind. -/
theorem isMade_of_declare {name : String} {e : Enumeration}
    (h : declare name kind declared = .ok e) {m : String × Value} (hm : m ∈ e.members) :
    (Value.member e m.1 m.2).IsMade := by
  simp only [declare, bind_eq_ok, pure_eq_ok] at h
  obtain ⟨_, _, ⟨ms, as⟩, hc, rfl⟩ := h
  rcases mem_collect hc hm with hm | ⟨_, _, hv⟩
  · cases hm
  · exact isMade_of_memberValue hv ..

end Enumeration

end Lifecycle
