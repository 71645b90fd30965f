import Std.Data.HashSet
import Lifecycle.Value.Key

/-!
Keys are compared by a total order that tells unequal keys apart, so keys in ascending order do not
depend on the order that they had before.
-/

namespace Lifecycle

open Std

theorem Exact.compare_eq :
    (compare : Exact → Exact → Ordering) = compareLex (compareOn num) (compareOn twos) := by
  funext x y
  show instOrdExact.ord x y = _
  simp only [instOrdExact.ord, Ordering.then_eq]
  rfl

instance : TransOrd Exact := by
  unfold TransOrd
  rw [Exact.compare_eq]
  infer_instance

instance : LawfulEqOrd Exact where
  eq_of_compare {x y} h := by
    rw [Exact.compare_eq, compareLex_eq_eq] at h
    have hnum : x.num = y.num := LawfulEqOrd.eq_of_compare h.1
    have htwos : x.twos = y.twos := LawfulEqOrd.eq_of_compare h.2
    exact Exact.mk.injEq .. ▸ ⟨hnum, htwos⟩

namespace Label

def exact : Label → Exact
  | number x => x
  | _ => ⟨0, 0⟩

/-- What tells labels with the same texts apart, where it is one of a few things or a number. -/
def index : Label → Nat
  | infinity negative => negative.toNat
  | moment kind _ => kind.ctorIdx
  | identity id => id
  | shape s => s.ctorIdx
  | _ => 0

def place : Label → Int
  | moment _ place => place
  | _ => 0

def firstText : Label → String
  | text s | member s _ | enumeration s | type s => s
  | _ => ""

def secondText : Label → String
  | member _ s => s
  | _ => ""

def octets : Label → List UInt8
  | bytes bs => bs
  | _ => []

theorem compare_eq : (compare : Label → Label → Ordering) =
    compareLex (compareOn Label.ctorIdx) (compareLex (compareOn exact) (compareLex (compareOn index)
      (compareLex (compareOn place) (compareLex (compareOn firstText)
        (compareLex (compareOn secondText) (compareOn octets)))))) := by
  funext a b
  show instOrdLabel.ord a b = _
  cases a <;> cases b
  case infinity.infinity a b => cases a <;> cases b <;> rfl
  case bytes.bytes bs cs =>
    show (compare bs cs).then .eq = compare bs cs
    exact Ordering.then_eq
  all_goals rfl

instance : TransOrd Label := by
  unfold TransOrd
  rw [compare_eq]
  infer_instance

instance : LawfulEqOrd Label where
  eq_of_compare {a b} h := by
    rw [compare_eq] at h
    simp only [compareLex_eq_eq, compareOn, LawfulEqOrd.compare_eq_iff_eq] at h
    obtain ⟨hkind, hexact, hindex, hplace, hfirst, hsecond, hoctets⟩ := h
    cases a <;> cases b <;>
      simp_all [Label.ctorIdx, exact, index, place, firstText, secondText, octets]
    case infinity.infinity a b => cases a <;> cases b <;> first | rfl | cases hindex
    case moment.moment k _ l _ =>
      rw [← MomentKind.ofNat_ctorIdx k, hindex, MomentKind.ofNat_ctorIdx]
    case shape.shape s t => rw [← Shape.ofNat_ctorIdx s, hindex, Shape.ofNat_ctorIdx]

end Label

mutual

theorem Key.eq_of_order : ∀ {a b : Key}, a.order b = .eq → a = b
  | .node l as, .node m bs, h => by
    rw [Key.order, Ordering.then_eq_eq] at h
    rw [LawfulEqOrd.eq_of_compare h.1, Keys.eq_of_order h.2]

theorem Keys.eq_of_order : ∀ {as bs : Keys}, as.order bs = .eq → as = bs
  | .nil, .nil, _ => rfl
  | .nil, .cons _ _, h => nomatch h
  | .cons _ _, .nil, h => nomatch h
  | .cons a as, .cons b bs, h => by
    rw [Keys.order, Ordering.then_eq_eq] at h
    rw [Key.eq_of_order h.1, Keys.eq_of_order h.2]

end

mutual

theorem Key.order_swap : ∀ a b : Key, a.order b = (b.order a).swap
  | .node l as, .node m bs => by
    rw [Key.order, Key.order, Ordering.swap_then, ← OrientedOrd.eq_swap, ← Keys.order_swap as bs]

theorem Keys.order_swap : ∀ as bs : Keys, as.order bs = (bs.order as).swap
  | .nil, .nil => rfl
  | .nil, .cons _ _ => rfl
  | .cons _ _, .nil => rfl
  | .cons a as, .cons b bs => by
    rw [Keys.order, Keys.order, Ordering.swap_then, ← Key.order_swap a b, ← Keys.order_swap as bs]

end

mutual

theorem Key.order_trans : ∀ {a b c : Key}, a.order b = .lt → b.order c = .lt → a.order c = .lt
  | .node k as, .node l bs, .node m cs, h, h' => by
    rw [Key.order, Ordering.then_eq_lt] at h h' ⊢
    rcases h with h | ⟨h, hs⟩
    · rcases h' with h' | ⟨h', _⟩
      · exact .inl (TransCmp.lt_trans h h')
      · exact .inl (LawfulEqOrd.eq_of_compare h' ▸ h)
    · rcases h' with h' | ⟨h', hs'⟩
      · exact .inl (LawfulEqOrd.eq_of_compare h ▸ h')
      · exact .inr ⟨LawfulEqOrd.eq_of_compare h ▸ h', Keys.order_trans hs hs'⟩

theorem Keys.order_trans : ∀ {as bs cs : Keys},
    as.order bs = .lt → bs.order cs = .lt → as.order cs = .lt
  | .nil, .nil, _, h, _ => nomatch h
  | .nil, .cons _ _, .nil, _, h => nomatch h
  | .nil, .cons _ _, .cons _ _, _, _ => rfl
  | .cons _ _, .nil, _, h, _ => nomatch h
  | .cons _ _, .cons _ _, .nil, _, h => nomatch h
  | .cons a as, .cons b bs, .cons c cs, h, h' => by
    rw [Keys.order, Ordering.then_eq_lt] at h h' ⊢
    rcases h with h | ⟨h, hs⟩
    · rcases h' with h' | ⟨h', _⟩
      · exact .inl (Key.order_trans h h')
      · exact .inl (Key.eq_of_order h' ▸ h)
    · rcases h' with h' | ⟨h', hs'⟩
      · exact .inl (Key.eq_of_order h ▸ h')
      · exact .inr ⟨Key.eq_of_order h ▸ h', Keys.order_trans hs hs'⟩

end

namespace Key

instance : OrientedCmp Key.order := ⟨order_swap _ _⟩

instance : LawfulEqCmp Key.order := ⟨eq_of_order⟩

instance : TransCmp Key.order where
  isLE_trans {a b c} h h' := by
    rw [Ordering.isLE_iff_eq_lt_or_eq_eq] at h h' ⊢
    rcases h with h | h
    · rcases h' with h' | h'
      · exact .inl (order_trans h h')
      · exact .inl (eq_of_order h' ▸ h)
    · exact eq_of_order h ▸ h'

/-- A key comes before another or is the same. -/
def Le (a b : Key) : Prop := (a.order b).isLE = true

theorem le_trans {a b c : Key} (h : a.Le b) (h' : b.Le c) : a.Le c := TransCmp.isLE_trans h h'

theorem le_antisymm {a b : Key} (h : a.Le b) (h' : b.Le a) : a = b :=
  LawfulEqCmp.eq_of_compare (OrientedCmp.isLE_antisymm h h')

theorem le_of_not_le {a b : Key} (h : ¬ a.Le b) : b.Le a := by
  have hgt : a.order b = .gt := by simpa [Le] using h
  rw [Le, order_swap, hgt]
  rfl

end Key

namespace Keys

def toList : Keys → List Key
  | .nil => []
  | .cons k ks => k :: ks.toList

theorem toList_inj : ∀ {as bs : Keys}, as.toList = bs.toList → as = bs
  | .nil, .nil, _ => rfl
  | .nil, .cons _ _, h => nomatch h
  | .cons _ _, .nil, h => nomatch h
  | .cons a as, .cons b bs, h => by
    obtain ⟨rfl, hs⟩ := List.cons.inj h
    rw [toList_inj hs]

theorem toList_keysOf (xs : List Value) : (keysOf xs).toList = xs.map Value.key := by
  induction xs with
  | nil => rfl
  | cons x xs ih => rw [keysOf, toList, ih, List.map_cons]

theorem insert_perm (k : Key) : ∀ ks : Keys, (ks.insert k).toList.Perm (k :: ks.toList)
  | .nil => .refl _
  | .cons a as => by
    rw [insert]
    split
    · exact .refl _
    · exact ((insert_perm k as).cons a).trans (.swap k a as.toList)

theorem sorted_insert (k : Key) : ∀ {ks : Keys},
    ks.toList.Pairwise Key.Le → (ks.insert k).toList.Pairwise Key.Le
  | .nil, _ => List.pairwise_singleton _ _
  | .cons a as, h => by
    obtain ⟨ha, has⟩ := List.pairwise_cons.mp h
    rw [insert]
    split
    next hka =>
      refine .cons ?_ h
      intro b hb
      rcases List.mem_cons.mp hb with rfl | hb
      · exact hka
      · exact Key.le_trans hka (ha b hb)
    next hka =>
      refine .cons ?_ (sorted_insert k has)
      intro b hb
      rcases List.mem_cons.mp ((insert_perm k as).mem_iff.mp hb) with rfl | hb
      · exact Key.le_of_not_le hka
      · exact ha b hb

theorem sort_perm : ∀ ks : Keys, ks.sort.toList.Perm ks.toList
  | .nil => .refl _
  | .cons a as => (insert_perm a as.sort).trans ((sort_perm as).cons a)

theorem sorted_sort : ∀ ks : Keys, ks.sort.toList.Pairwise Key.Le
  | .nil => .nil
  | .cons a as => sorted_insert a (sorted_sort as)

/-- Keys in ascending order are the same whatever order they had before. -/
theorem sort_eq_of_perm {as bs : Keys} (h : as.toList.Perm bs.toList) : as.sort = bs.sort := by
  have hsorted : as.sort.toList.Perm bs.sort.toList :=
    (sort_perm as).trans (h.trans (sort_perm bs).symm)
  -- in ascending order keys stand in one way only, as two that are each before the other are one
  apply toList_inj
  apply hsorted.eq_of_pairwise _ (sorted_sort as) (sorted_sort bs)
  intro a b _ _ hab hba
  exact Key.le_antisymm hab hba

end Keys

end Lifecycle
