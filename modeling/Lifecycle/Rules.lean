import Lifecycle.Domain

namespace Lifecycle

/-- What one rule allows, as declared: a state or a collection of states on either side. -/
structure Entry where
  source : Value
  target : Value

/-- A single state stands for itself; lists, tuples and sets stand for their elements. -/
def unwrap : Value → List Value
  | .list _ xs | .tuple xs | .set _ _ xs => xs
  | v => [v]

def Entry.of? : Value → Option Entry
  | .tuple [s, t] | .list _ [s, t] => some ⟨s, t⟩
  | _ => none

def rawEntries (rules : Value) : Except Fault (List (Except Fault Entry)) :=
  match rules with
  | .dict _ items => .ok (items.map fun e => .ok ⟨e.1, e.2⟩)
  | _ =>
    if rules.isTextual then .error (.notRules rules)
    else match rules.elements? with
      | some xs => .ok (xs.map fun x => match Entry.of? x with
        | some e => .ok e
        | none => .error (.notAnEntry x))
      | none => .error (rules.iterationFault?.getD (.notRules rules))

def entriesBefore : List (Except Fault Entry) → List Entry × Option Fault
  | [] => ([], none)
  | .error e :: _ => ([], some e)
  | .ok e :: rest => let (es, fault) := entriesBefore rest; (e :: es, fault)

namespace Domain

/-- Tries a rule for every state in order. A state that is the wildcard itself would be replaced
for ever. -/
def forEachState (d : Domain) (rule : Value → Except Fault (List Pair)) :
    Except Fault (List Pair) :=
  go d.states
where
  go : List Value → Except Fault (List Pair)
    | [] => .ok []
    | s :: rest => do
      if s.isWildcard then throw .endlessExpansion
      let here ← rule s
      let there ← go rest
      return here ++ there

def expandTarget (d : Domain) (source target : Value) : Except Fault (List Pair) :=
  if target.isWildcard then d.forEachState fun t => d.concretePairs source t
  else d.concretePairs source target

/-- The pairs of one candidate: a wildcard source is replaced first, then a wildcard target. -/
def expandCandidate (d : Domain) (source target : Value) : Except Fault (List Pair) :=
  if source.isWildcard then d.forEachState fun s => d.expandTarget s target
  else d.expandTarget source target

/-- The candidates of an entry, the source varying slowest. -/
def candidates (e : Entry) : List Pair :=
  (unwrap e.source).flatMap fun s => (unwrap e.target).map fun t => (s, t)

def expandAll (d : Domain) : List Pair → Except Fault (List Pair)
  | [] => .ok []
  | (s, t) :: rest => do
    let here ← d.expandCandidate s t
    let there ← d.expandAll rest
    return here ++ there

def expandEntries (d : Domain) : List (Except Fault Entry) → Except Fault (List Pair)
  | [] => .ok []
  | entry :: rest => do
    let here ← d.expandAll (candidates (← entry))
    let there ← d.expandEntries rest
    return here ++ there

def undrawn (d : Domain) (entries : List Value) : List Value :=
  (entries.dropWhile fun x => match Entry.of? x with
    | some e => (d.expandAll (candidates e)).isOk
    | none => false).drop 1

end Domain

structure Expansion where
  domain : Domain
  pairs : List Value
  entries : Nat

/-- Compiles rules over a domain: either every candidate is valid, or there is no result. -/
def Domain.expand (d : Domain) (rules : Value) : Except Fault Expansion := do
  let raw ← rawEntries rules
  let pairs := (← d.expandEntries raw).map Pair.value
  needAllHashable pairs
  return ⟨d, distinct pairs, raw.length⟩

namespace Matcher

def ofPairs (pairs : List Value) : Except Fault Matcher := do
  needAllHashable pairs
  return .mk (distinct pairs) none

def ofExpansion (e : Expansion) : Matcher := .mk e.pairs (some e.domain)

/-- A move is allowed exactly when it is one of the pairs; what cannot be a state never is. -/
def allowed (m : Matcher) (source target : Value) : Bool :=
  (Pair.value (source, target)).isHashable && holds m.pairs (Pair.value (source, target))

def containsPair (m : Matcher) : Value → Bool
  | .tuple [s, t] => m.allowed s t
  | _ => false

def size (m : Matcher) : Nat := m.pairs.length

end Matcher

end Lifecycle
