import Lifecycle.Owner
import Lifecycle.Proofs.Fields
import Lifecycle.Proofs.Success

namespace Lifecycle

namespace Owner

variable {id : Nat} {name : String} {plain : List (String × Value)}

/-- The rule set that a declaration stands for, under its name. -/
def Declaration.compiled (d : Declaration) : Act (String × Matcher) :=
  return (d.name, ← Act.compile d.on d.rules)

def Decoration.compiled (d : Decoration) : Act (String × Matcher) := do
  let m ← Act.compile d.on d.rules
  return (← decorationName d.name, m)

def installed (declarations : List Declaration) (decorations : List Decoration) :
    Act (List (String × Matcher)) := do
  let declared ← declarations.mapM Declaration.compiled
  return declared ++ (← decorations.mapM Decoration.compiled)

def installAll (c : Owner) (sets : List (String × Matcher)) : Owner :=
  sets.foldl (fun c s => c.install s.1 s.2) c

def lastOf (sets : List (String × Matcher)) (name : String) : Option Matcher :=
  field? name sets.reverse

def bare (id : Nat) (name : String) (plain : List (String × Value)) : Owner :=
  .mk id name (fieldsOf (plain.map fun (n, v) => (n, Attribute.plain v)))

theorem installAll_append (c : Owner) (sets more : List (String × Matcher)) :
    c.installAll (sets ++ more) = (c.installAll sets).installAll more := List.foldl_append

theorem installAll_bare (sets : List (String × Matcher)) :
    (bare id name plain).installAll sets = .mk id name (fieldsOf
      (plain.map (fun (n, v) => (n, Attribute.plain v)) ++
        sets.map fun (n, m) => (n, Attribute.rules m))) := by
  rw [bare, fieldsOf, fieldsOf, List.foldl_append]
  -- both sides put the rules on what the class has by then, whatever that is
  generalize List.foldl _ [] (plain.map _) = fields
  induction sets generalizing fields with
  | nil => rfl
  | cons s sets ih => exact ih (putField fields s.1 (.rules s.2))

theorem decorate_eq (c : Owner) (d : Decoration) :
    decorate c d = (fun s : String × Matcher => c.install s.1 s.2) <$> d.compiled := by
  simp [decorate, Decoration.compiled]

theorem declare_eq (declarations : List Declaration) (decorations : List Decoration) :
    declare id name plain declarations decorations =
      (bare id name plain).installAll <$> installed declarations decorations := by
  have hrules : (declarations.mapM fun d => do
        return (d.name, Attribute.rules (← Act.compile d.on d.rules))) =
      List.map (fun (n, m) => (n, Attribute.rules m)) <$>
        declarations.mapM Declaration.compiled := by
    rw [← mapM_map_eq]
    simp [Declaration.compiled]
  have hput (c : Owner) : decorations.foldlM decorate c =
      c.installAll <$> decorations.mapM Decoration.compiled := by
    rw [show decorate = _ from funext fun c => funext (decorate_eq c)]
    exact foldlM_eq_mapM Decoration.compiled (fun c s => c.install s.1 s.2) decorations c
  rw [declare, installed, hrules]
  simp only [hput, map_eq_pure_bind, bind_assoc, pure_bind, installAll_append]
  simp only [installAll_bare]

theorem attribute?_install (c : Owner) (n : String) (m : Matcher) (k : String) :
    (c.install n m).attribute? k = if k = n then some (.matcher m) else c.attribute? k := by
  have hput : (c.install n m).attributes = putField c.attributes n (.rules m) := rfl
  rw [attribute?, hput, field?_putField]
  by_cases h : k = n
  · rw [if_pos h, if_pos h]
    rfl
  · rw [if_neg h, if_neg h]
    rfl

theorem lastOf_cons (s : String × Matcher) (sets : List (String × Matcher)) (k : String) :
    lastOf (s :: sets) k = (lastOf sets k <|> if s.1 = k then some s.2 else none) := by
  rw [lastOf, List.reverse_cons, field?_append, field?_cons]
  rfl

/-- What a class has under a name is the rule set put there last, if there is one. -/
theorem attribute?_installAll (c : Owner) (sets : List (String × Matcher)) (k : String) :
    (c.installAll sets).attribute? k = ((lastOf sets k).map Value.matcher <|> c.attribute? k) := by
  induction sets generalizing c with
  | nil => rfl
  | cons s sets ih =>
    have hput : c.installAll (s :: sets) = (c.install s.1 s.2).installAll sets := rfl
    rw [hput, ih, attribute?_install, lastOf_cons]
    cases lastOf sets k with
    | some m => rfl
    | none =>
      by_cases h : s.1 = k
      · simp [h]
      · simp [h, Ne.symm h]

theorem lastOf_eq_none {sets : List (String × Matcher)} {k : String} (h : ∀ s ∈ sets, s.1 ≠ k) :
    lastOf sets k = none := by
  rw [lastOf, ← Option.not_isSome_iff_eq_none, field?_isSome_iff]
  intro hk
  obtain ⟨s, hs, hsk⟩ := List.mem_map.mp hk
  exact h s (List.mem_reverse.mp hs) hsk

end Owner

end Lifecycle
