import Lifecycle.Proofs.Fields
import Lifecycle.Proofs.Settings.Overlay
import Lifecycle.Settings.Load

namespace Lifecycle

namespace Coercion

theorem lowered_append (s t : String) : lowered (s ++ t) = lowered s ++ lowered t := by
  apply String.toList_inj.mp
  simp [lowered]

theorem toNat_toLower (c : Char) : c.toLower.toNat =
    if 65 ≤ c.toNat ∧ c.toNat ≤ 90 then c.toNat + 32 else c.toNat := by
  have hupper : (c.val ≥ 'A'.val ∧ c.val ≤ 'Z'.val) ↔ 65 ≤ c.toNat ∧ c.toNat ≤ 90 := by
    rw [ge_iff_le, UInt32.le_iff_toNat_le, UInt32.le_iff_toNat_le]
    rfl
  unfold Char.toLower
  by_cases h : c.val ≥ 'A'.val ∧ c.val ≤ 'Z'.val
  · have hle := (hupper.mp h).2
    have hadd : (c.val + ('a'.val - 'A'.val)).toNat = (c.toNat + 32) % 4294967296 :=
      UInt32.toNat_add _ _
    rw [dif_pos h, if_pos (hupper.mp h)]
    show (c.val + ('a'.val - 'A'.val)).toNat = _
    rw [hadd]
    omega
  · rw [dif_neg h, if_neg fun hc => h (hupper.mpr hc)]

theorem toLower_toLower (c : Char) : c.toLower.toLower = c.toLower := by
  apply Char.toNat_inj.mp
  have hone := toNat_toLower c
  have htwo := toNat_toLower c.toLower
  split at hone
  · rw [htwo, if_neg (by omega)]
  next h => rw [htwo, hone, if_neg h]

theorem lowered_lowered (s : String) : lowered (lowered s) = lowered s := by
  have hkelvin : ∀ c : Char, c ≠ '\u212a' → c.toLower ≠ '\u212a' := by
    intro c hc h
    have hnat := toNat_toLower c
    rw [h] at hnat
    split at hnat
    next hupper =>
      have hval : ('\u212a' : Char).toNat = 8490 := rfl
      omega
    next => exact hc (Char.toNat_inj.mp hnat.symm)
  apply String.toList_inj.mp
  simp only [lowered, String.toList_map, List.map_map]
  apply List.map_congr_left
  intro c _
  simp only [Function.comp]
  by_cases h : c = '\u212a'
  · rw [if_pos h]
    decide
  · rw [if_neg h, if_neg (hkelvin c h), toLower_toLower]
end Coercion

namespace Environment

open Coercion

/-- The value of the last variable for a setting, whose name may be written in any case. -/
def written? (vars : List (String × String)) (setting : String) : Option String :=
  (vars.reverse.find? fun v => lowered v.1 = lowered ("STATETRANSIT_" ++ setting)).map (·.2)

theorem readAll_eq (vars : List (String × String)) :
    ({} : Reading).readAll vars = fieldsOf (vars.map fun v => (lowered v.1, v.2)) := by
  have hall : vars.filter (fun _ => true) = vars := List.filter_eq_self.mpr fun _ _ => rfl
  simp [Reading.readAll, Reading.spelled, hall]

theorem nameOf_eq (setting : String) :
    ({} : Reading).nameOf setting = lowered ("STATETRANSIT_" ++ setting) := by
  simp [Reading.nameOf, Reading.spelled]

theorem field?_readAll (vars : List (String × String)) (setting : String) :
    field? (({} : Reading).nameOf setting) (({} : Reading).readAll vars) =
      written? vars setting := by
  rw [readAll_eq, field?_fieldsOf, ← List.map_reverse, field?, List.find?_map, Option.map_map,
    nameOf_eq]
  rfl

theorem plain?_eq (vars : List (String × String)) (name : String) :
    plain? {} (({} : Reading).readAll vars) name = (written? vars name).map Value.text := by
  rw [plain?, field?_readAll]
  rfl

section Nested

/-- What the names of variables for values in the section begin with. -/
def sectionStart : String := ({} : Reading).nameOf "validator" ++ "__"

def parts (name : String) : List String :=
  (Search.splitMost "__".toList (name.toList.length + 1) name.toList).map String.ofList

/-- One variable's part in the values that have variables of their own. -/
def nest (t : Table) (v : String × String) : Table :=
  match afterPrefix? sectionStart v.1 with
  | some rest => setNested t (parts rest) (.text v.2)
  | none => t

theorem nest_of_some {t : Table} {v : String × String} {rest : String}
    (h : afterPrefix? sectionStart v.1 = some rest) :
    nest t v = setNested t (parts rest) (.text v.2) := by rw [nest, h]

theorem nest_of_none {t : Table} {v : String × String}
    (h : afterPrefix? sectionStart v.1 = none) : nest t v = t := by rw [nest, h]

theorem nestedValues_eq (vars : List (String × String)) :
    nestedValues {} vars = .ok (vars.foldl nest []) := by
  have hstep : ∀ (t : Table) (v : String × String),
      (match afterPrefix? (({} : Reading).nameOf "validator" ++ "__") v.1 with
        | some rest => do return setNested t (← nameParts {} rest) (({} : Reading).value v.2)
        | none => return t) = (.ok (nest t v) : Except Fault Table) := by
    intro t v
    unfold nest
    rw [sectionStart]
    split <;> rfl
  have hfold : ∀ t : Table, vars.foldlM (fun t (v : String × String) =>
      (match afterPrefix? (({} : Reading).nameOf "validator" ++ "__") v.1 with
        | some rest => do return setNested t (← nameParts {} rest) (({} : Reading).value v.2)
        | none => return t : Except Fault Table)) t = .ok (vars.foldl nest t) := by
    induction vars with
    | nil => intro t; rfl
    | cons v vars ih =>
      intro t
      rw [List.foldlM_cons, hstep, ok_bind, ih]
      rfl
  exact hfold []

theorem setNested_cases (t : Table) (k : String) (rest : List String) (v : Value) :
    setNested t (k :: rest) v = t ∨ ∃ x, setNested t (k :: rest) v = Table.put t (.text k) x := by
  cases rest with
  | nil =>
    unfold setNested setLeaf
    split
    · exact .inr ⟨_, rfl⟩
    · exact .inl rfl
    · exact .inr ⟨_, rfl⟩
  | cons r rest =>
    unfold setNested
    split
    · exact .inr ⟨_, rfl⟩
    · exact .inr ⟨_, rfl⟩
    · exact .inl rfl

theorem afterPrefix?_eq_some_iff {start name rest : String} :
    afterPrefix? start name = some rest ↔ name = start ++ rest := by
  rw [afterPrefix?, Option.map_eq_some_iff]
  constructor
  · rintro ⟨cs, hcs, rfl⟩
    rw [Document.after?_eq_some_iff] at hcs
    apply String.toList_inj.mp
    rw [hcs, String.toList_append, String.toList_ofList]
  · rintro rfl
    refine ⟨rest.toList, Document.after?_eq_some_iff.mpr ?_, String.ofList_toList⟩
    rw [String.toList_append]

theorem eq_of_parts {name k : String} (h : parts name = [k]) : name = k := by
  obtain ⟨cs, hcs, rfl⟩ := List.map_eq_singleton_iff.mp h
  have hjoin := Search.joined_splitMost "__".toList (name.toList.length + 1) name.toList
  rw [hcs, Search.joined] at hjoin
  rw [hjoin, String.ofList_toList]

theorem mem_joined {α : Type} {part piece : List α} {pieces : List (List α)} {x : α}
    (hx : x ∈ piece) (hp : piece ∈ pieces) : x ∈ Search.joined part pieces := by
  induction pieces with
  | nil => cases hp
  | cons p pieces ih =>
    cases pieces with
    | nil => rwa [List.mem_singleton.mp hp] at hx
    | cons q pieces =>
      have hjoin : Search.joined part (p :: q :: pieces) =
          p ++ part ++ Search.joined part (q :: pieces) := rfl
      rw [hjoin, List.mem_append, List.mem_append]
      rcases List.mem_cons.mp hp with rfl | hp
      · exact .inl (.inl hx)
      · exact .inr (ih hp)

theorem lowered_eq_self_iff {s : String} :
    lowered s = s ↔ ∀ c ∈ s.toList, (if c = '\u212a' then 'k' else c.toLower) = c := by
  rw [← String.toList_inj, lowered, String.toList_map]
  conv => lhs; rhs; rw [← List.map_id s.toList]
  exact List.map_inj_left

theorem lowered_of_append {s t : String} (h : lowered (s ++ t) = s ++ t) : lowered t = t := by
  rw [lowered_eq_self_iff] at h ⊢
  intro c hc
  exact h c (by simp [hc])

theorem lowered_of_mem_parts {name k : String} (hn : lowered name = name) (hk : k ∈ parts name) :
    lowered k = k := by
  obtain ⟨cs, hcs, rfl⟩ := List.mem_map.mp hk
  rw [lowered_eq_self_iff] at hn ⊢
  intro c hc
  rw [String.toList_ofList] at hc
  apply hn c
  rw [← Search.joined_splitMost "__".toList (name.toList.length + 1) name.toList]
  exact mem_joined hc hcs

/-- A name of the section that is in small letters and has no parts. -/
structure IsLeaf (leaf : String) : Prop where
  lowered : lowered leaf = leaf
  whole : parts leaf = [leaf]

theorem isLeaf_of_mem {leaf : String} (h : leaf ∈ leafNames) : IsLeaf leaf := by
  simp only [leafNames, List.mem_cons, List.not_mem_nil, or_false] at h
  rcases h with rfl | rfl | rfl | rfl <;> exact ⟨by decide +kernel, by decide +kernel⟩

/-- What a table of nested values has for a leaf: what the leaf's own variable says, or at most a
table. -/
def HasOwn (t : Table) (leaf : String) (own : Option String) : Prop :=
  match own with
  | some w => Table.lookup? t (.text leaf) = some (.text w)
  | none => OrTable (Table.lookup? t (.text leaf)) none

theorem lookup?_setNested_of_ne {t : Table} {k leaf : String} {rest : List String} {v : Value}
    (h : k ≠ leaf) : Table.lookup? (setNested t (k :: rest) v) (.text leaf) =
      Table.lookup? t (.text leaf) := by
  have hkey : (Value.text leaf).key ≠ (Value.text k).key := by
    simpa [Value.key, Key.leaf] using Ne.symm h
  rcases setNested_cases t k rest v with he | ⟨x, he⟩
  · rw [he]
  · rw [he, Table.lookup?_put, if_neg hkey]

/-- A value set deeper than a leaf leaves what the leaf's own variable says. -/
theorem hasOwn_setNested_deep {t : Table} {leaf r : String} {rest : List String} {v : Value}
    {own : Option String} (h : HasOwn t leaf own) :
    HasOwn (setNested t (leaf :: r :: rest) v) leaf own := by
  unfold setNested
  cases own with
  | some w =>
    have hl : Table.lookup? t (.text leaf) = some (.text w) := h
    simp only [hl]
    exact h
  | none =>
    split
    · exact .inr ⟨0, _, by rw [Table.lookup?_put, if_pos rfl]⟩
    · exact .inr ⟨0, _, by rw [Table.lookup?_put, if_pos rfl]⟩
    · exact h

theorem hasOwn_nest {t : Table} {leaf : String} {own : Option String} (hleaf : IsLeaf leaf)
    (h : HasOwn t leaf own) (v : String × String) :
    HasOwn (nest t v) leaf ((if v.1 = sectionStart ++ leaf then some v.2 else none) <|> own) := by
  cases hp : afterPrefix? sectionStart v.1 with
  | none =>
    have hne : v.1 ≠ sectionStart ++ leaf := by
      intro he
      rw [afterPrefix?_eq_some_iff.mpr he] at hp
      cases hp
    rw [nest_of_none hp, if_neg hne]
    exact h
  | some rest =>
    have hv := afterPrefix?_eq_some_iff.mp hp
    rw [nest_of_some hp]
    by_cases hrest : rest = leaf
    · have he : v.1 = sectionStart ++ leaf := hrest ▸ hv
      rw [hrest, hleaf.whole, if_pos he]
      show Table.lookup? (Table.put t (.text leaf) (.text v.2)) (.text leaf) = some (.text v.2)
      rw [Table.lookup?_put, if_pos rfl]
    · have hne : v.1 ≠ sectionStart ++ leaf := by
        rw [hv]
        intro he
        have hlist := congrArg String.toList he
        rw [String.toList_append, String.toList_append] at hlist
        exact hrest (String.toList_inj.mp (List.append_cancel_left hlist))
      rw [if_neg hne]
      show HasOwn _ leaf own
      -- what is not the leaf's own name is another value's, or lies deeper than the leaf
      cases hparts : parts rest with
      | nil => exact h
      | cons k more =>
        by_cases hk : k = leaf
        · subst hk
          cases more with
          | nil => exact absurd (eq_of_parts hparts) hrest
          | cons r more => exact hasOwn_setNested_deep h
        · unfold HasOwn
          rw [lookup?_setNested_of_ne hk]
          exact h

theorem hasOwn_nested {leaf : String} (hleaf : IsLeaf leaf) (vars : List (String × String)) :
    HasOwn (vars.foldl nest []) leaf (field? (sectionStart ++ leaf) vars.reverse) := by
  have hfold : ∀ (t : Table) (own : Option String), HasOwn t leaf own →
      HasOwn (vars.foldl nest t) leaf (field? (sectionStart ++ leaf) vars.reverse <|> own) := by
    induction vars with
    | nil => exact fun t own h => h
    | cons v vars ih =>
      intro t own h
      have hstep := ih _ _ (hasOwn_nest hleaf h v)
      rw [List.reverse_cons, field?_append, field?_cons]
      cases hf : field? (sectionStart ++ leaf) vars.reverse with
      | some w =>
        rw [hf] at hstep
        exact hstep
      | none =>
        rw [hf] at hstep
        by_cases he : v.1 = sectionStart ++ leaf
        · simpa [he] using hstep
        · simpa [he, field?] using hstep
  have h := hfold [] none (.inl rfl)
  cases hf : field? (sectionStart ++ leaf) vars.reverse <;> rwa [hf] at h

/-- A table whose names are in small letters, each once. -/
structure IsLowered (t : Table) : Prop where
  keyed : Table.IsKeyed t
  names : ∀ e ∈ t, ∃ n, e.1 = .text n ∧ lowered n = n

theorem mem_put {t : Table} {k v : Value} {e : Value × Value} (h : e ∈ Table.put t k v) :
    (∃ f ∈ t, f.1 = e.1) ∨ e.1 = k := by
  have hk : e.1 ∈ Table.keys (Table.put t k v) := List.mem_map_of_mem h
  rw [Table.keys_put] at hk
  split at hk
  · exact .inl (List.mem_map.mp hk)
  · rcases List.mem_append.mp hk with hk | hk
    · exact .inl (List.mem_map.mp hk)
    · exact .inr (List.mem_singleton.mp hk)

theorem isLowered_put {t : Table} {k : String} (ht : IsLowered t) (hk : lowered k = k) (v : Value) :
    IsLowered (Table.put t (.text k) v) where
  keyed := Table.isKeyed_put ht.keyed _ _
  names e he := by
    rcases mem_put he with ⟨f, hf, heq⟩ | heq
    · rw [← heq]
      exact ht.names f hf
    · exact ⟨k, heq, hk⟩

theorem isLowered_nested {vars : List (String × String)} (hv : ∀ v ∈ vars, lowered v.1 = v.1) :
    IsLowered (vars.foldl nest []) := by
  have hfold : ∀ t : Table, IsLowered t → IsLowered (vars.foldl nest t) := by
    induction vars with
    | nil => exact fun t ht => ht
    | cons v vars ih =>
      intro t ht
      refine ih (fun u hu => hv u (List.mem_cons_of_mem _ hu)) _ ?_
      cases hp : afterPrefix? sectionStart v.1 with
      | none => rwa [nest_of_none hp]
      | some rest =>
        rw [nest_of_some hp]
        cases hparts : parts rest with
        | nil => exact ht
        | cons k more =>
          have hk : lowered k = k := by
            refine lowered_of_mem_parts ?_ (hparts ▸ List.mem_cons_self)
            exact lowered_of_append (afterPrefix?_eq_some_iff.mp hp ▸ hv v List.mem_cons_self)
          rcases setNested_cases t k more (.text v.2) with he | ⟨x, he⟩
          · rwa [he]
          · rw [he]
            exact isLowered_put ht hk x
  exact hfold [] ⟨.nil, by simp⟩

end Nested

end Environment

end Lifecycle
