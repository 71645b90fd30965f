/-!
Search in sequences: texts are sequences of characters, byte strings of bytes. What is found is cut out
without loss (`splitFirst?_eq`), and the pieces between occurrences join to the whole again
(`joined_splitAll`).
-/

namespace Lifecycle.Search

variable {α : Type} [BEq α]

/-- What lies before and after the first occurrence of a part. -/
def splitFirst? (part : List α) : List α → Option (List α × List α)
  | [] => if part.isEmpty then some ([], []) else none
  | x :: xs =>
    match part.isPrefixOf? (x :: xs) with
    | some rest => some ([], rest)
    | none => (splitFirst? part xs).map fun (before, rest) => (x :: before, rest)

def splitLast? (part xs : List α) : Option (List α × List α) :=
  (splitFirst? part.reverse xs.reverse).map fun (rest, before) => (before.reverse, rest.reverse)

def firstAt? (part xs : List α) : Option Nat := (splitFirst? part xs).map (·.1.length)

def lastAt? (part xs : List α) : Option Nat := (splitLast? part xs).map (·.1.length)

/-- The pieces between occurrences of a part, of which at most so many are cut at. -/
def splitMost (part : List α) : Nat → List α → List (List α)
  | 0, xs => [xs]
  | limit + 1, xs =>
    match splitFirst? part xs with
    | some (before, rest) => before :: splitMost part limit rest
    | none => [xs]

def splitAll (part xs : List α) : List (List α) := splitMost part (xs.length + 1) xs

/-- As `splitMost`, but cut at the occurrences that come last. -/
def splitMostLast (part : List α) (limit : Nat) (xs : List α) : List (List α) :=
  ((splitMost part.reverse limit xs.reverse).map List.reverse).reverse

/-- How often a part occurs, without overlap. What is empty occurs everywhere. -/
def occurrences (part xs : List α) : Nat :=
  if part.isEmpty then xs.length + 1 else (splitAll part xs).length - 1

def joined (part : List α) : List (List α) → List α
  | [] => []
  | [piece] => piece
  | piece :: pieces => piece ++ part ++ joined part pieces

theorem isPrefixOf?_eq [LawfulBEq α] {part xs rest : List α}
    (h : part.isPrefixOf? xs = some rest) : xs = part ++ rest := by
  induction part generalizing xs with
  | nil => exact Option.some.inj h
  | cons p part ih =>
    cases xs with
    | nil => exact nomatch h
    | cons x xs =>
      change (if p == x then part.isPrefixOf? xs else none) = some rest at h
      split at h
      · next hp => rw [eq_of_beq hp, ih h, List.cons_append]
      · exact nomatch h

theorem splitFirst?_eq [LawfulBEq α] {part xs before rest : List α}
    (h : splitFirst? part xs = some (before, rest)) : xs = before ++ part ++ rest := by
  induction xs generalizing before with
  | nil =>
    cases part <;> simp_all [splitFirst?]
  | cons x xs ih =>
    unfold splitFirst? at h
    split at h
    · next r hr =>
      obtain ⟨rfl, rfl⟩ : [] = before ∧ r = rest := by simpa using h
      simpa using isPrefixOf?_eq hr
    · next hr =>
      obtain ⟨⟨b, r⟩, hb, heq⟩ := Option.map_eq_some_iff.1 h
      obtain ⟨rfl, rfl⟩ : x :: b = before ∧ r = rest := by simpa using heq
      rw [ih hb]
      simp

theorem joined_splitMost [LawfulBEq α] (part : List α) (limit : Nat) (xs : List α) :
    joined part (splitMost part limit xs) = xs := by
  induction limit generalizing xs with
  | zero => rfl
  | succ limit ih =>
    unfold splitMost
    split
    · next before rest h =>
      have hne : splitMost part limit rest ≠ [] := by
        cases limit with
        | zero => simp [splitMost]
        | succ n => unfold splitMost; split <;> simp
      have hi := ih rest
      rw [splitFirst?_eq h]
      cases hs : splitMost part limit rest with
      | nil => exact absurd hs hne
      | cons p ps => rw [hs] at hi; rw [joined, hi]; simp
    · rfl

theorem splitFirst?_of_not_mem [LawfulBEq α] {x : α} {xs : List α} (h : x ∉ xs) :
    splitFirst? [x] xs = none := by
  induction xs with
  | nil => rfl
  | cons y ys ih =>
    obtain ⟨hne, hmem⟩ := not_or.mp (mt List.mem_cons.mpr h)
    have hstart : [x].isPrefixOf? (y :: ys) = none := if_neg (by simpa using hne)
    rw [splitFirst?, hstart]
    simp [ih hmem]

theorem splitAll_of_not_mem [LawfulBEq α] {x : α} {xs : List α} (h : x ∉ xs) :
    splitAll [x] xs = [xs] := by
  rw [splitAll, splitMost, splitFirst?_of_not_mem h]

end Lifecycle.Search
