import Lifecycle.Collection

namespace Lifecycle

abbrev Pair := Value × Value

def Pair.value (p : Pair) : Value := .tuple [p.1, p.2]

namespace Provider

def alternates : Provider → Table
  | enumeration e => e.members.map fun m => (.member e m.1 m.2, m.2)
  | mapping items => items
  | custom _ items .. => items

def isOnlyAlternate (items : Table) (v : Value) : Bool :=
  v.asElement.isHashable && holds (Table.values items) v && !Table.hasKey items v

/-- Whether a value has the type of a primary. In a mapping that is the type of some key, and an
alternate that is no key is refused though it may have it. -/
def isPrimaryType (p : Provider) (v : Value) : Bool :=
  match p with
  | enumeration e => v.isInstance e.typeName
  | mapping items =>
    items.any (fun e => v.isInstance e.1.typeName) && !isOnlyAlternate items v
  | custom _ _ types _ => types.any fun t => v.isInstance (.named t)

def isPrimary (p : Provider) (v : Value) : Bool :=
  match p with
  | enumeration e => v.isInstance e.typeName
  | mapping items => v.isHashable && Table.hasKey items v
  | custom _ _ _ valid => holds valid v

end Provider

namespace Domain

/-- Refuses an alternate that two primaries share, naming the first that repeats one. -/
def needDistinctAlternates (owned : Table) : Table → Except Fault Unit
  | [] => .ok ()
  | (primary, alternate) :: rest => do
    alternate.needHashable
    match owned.find? fun e => e.2.key = alternate.key with
    | some (first, _) => .error (.sharedAlternate alternate first primary)
    | none => needDistinctAlternates (owned ++ [(primary, alternate)]) rest

def ofProvider (p : Provider) : Except Fault Domain := do
  if let .mapping items := p then needAllHashable (Table.values items)
  needAllHashable (Table.keys p.alternates)
  let alternates := Table.ofList p.alternates
  needDistinctAlternates [] alternates
  return .dual p alternates

/-- A collection's distinct elements; `on` is what a refusal names. -/
def ofStates (on : Value) (states : List Value) : Except Fault Domain :=
  if states.all Value.isHashable then .ok (.flat (distinct states)) else .error (.notADomain on)

/-- The domain that a declaration stands for: a domain itself, an enumeration, a provider, a mapping
of primaries to alternates, or any collection of states that is not a text. -/
def declare (on : Value) : Except Fault Domain :=
  match on with
  | .domain _ d => .ok d
  | .enumeration e => ofProvider (.enumeration e)
  | .provider _ p => ofProvider p
  | .dict _ items => ofProvider (.mapping items)
  | .type _ | .owner _ => .error (.notADomain on)
  | _ =>
    if on.isTextual then .error (.notADomain on)
    else match on.elements? with
      | some states => ofStates on states
      | none =>
        match on.iterationFault? with
        | some (.badValue b) => .error (.badValue b)
        | _ => .error (.notADomain on)

def contains (d : Domain) (v : Value) : Bool :=
  match d with
  | flat states => v.asElement.isHashable && holds states v
  | dual _ alternates =>
    v.isHashable && (Table.hasKey alternates v || holds (Table.values alternates) v)

def states : Domain → List Value
  | flat states => states
  | dual _ alternates => Table.keys alternates

def isDual : Domain → Bool
  | flat _ => false
  | dual .. => true

def alternate (alternates : Table) (primary : Value) : Except Fault Value := do
  match ← Table.lookup alternates primary with
  | some v => return v
  | none => throw (.missingKey primary)

/-- The pairs that one rule without wildcards allows: in a dual domain both states in either form. -/
def concretePairs (d : Domain) (source target : Value) : Except Fault (List Pair) :=
  match d with
  | flat _ =>
    if d.contains source && d.contains target then .ok [(source, target)]
    else .error (.unknownState source target)
  | dual provider alternates => do
    if !provider.isPrimaryType source then throw (.notPrimary source target .source)
    if !provider.isPrimaryType target then throw (.notPrimary source target .target)
    if !(provider.isPrimary source && provider.isPrimary target) then
      throw (.unknownState source target)
    let sourceAlternate ← alternate alternates source
    let targetAlternate ← alternate alternates target
    return [(source, target), (sourceAlternate, target), (source, targetAlternate),
      (sourceAlternate, targetAlternate)]

end Domain

end Lifecycle
