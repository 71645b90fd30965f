import Lifecycle.Proofs.Foreign
import Lifecycle.Proofs.Messages
import Lifecycle.Proofs.Settings.Loading
import Lifecycle.Proofs.Store.Match

namespace Lifecycle

namespace Write

theorem isForeign_ofValue (v : Value) : IsForeign (Cell.ofValue v) := by
  unfold Cell.ofValue
  split
  · exact .ok _
  · exact .ok _
  · exact .ok _
  · split
    · exact .ok _
    · split <;> simp [Fault.isOwn]
    · exact IsForeign.error_iff.mpr rfl

theorem isForeign_nextVersion (v : Value) : IsForeign (nextVersion v) := by
  unfold nextVersion
  split
  · split <;> simp [Fault.isOwn]
  · exact .ok _

theorem isForeign_originalOf (data field : Value) :
    IsForeign (Changeset.originalOf data field) := by
  unfold Changeset.originalOf
  split
  · have hlookup : ∀ items, IsForeign (Table.lookup items field) := fun items =>
      (isForeign_needHashable field).bind fun _ => .ok _
    exact (hlookup _).bind fun _ => .ok _
  · split
    · exact (Value.isForeign_lookup _ _).bind fun _ => .ok _
    · exact IsForeign.error_iff.mpr rfl

theorem isForeign_requireColumn (t : Relation) (name : String) :
    IsForeign (t.requireColumn name) := by
  unfold Relation.requireColumn
  split <;> simp [Fault.isOwn]

theorem isForeign_ofChangeset (t : Relation) (cs : Changeset) (key : String)
    (lock : Option String) : IsForeign (ofChangeset t cs key lock) := by
  refine (isForeign_originalOf _ _).bind fun keyValue => (Value.isForeign_toTable _).bind fun _ =>
    (isForeign_requireColumn t key).bind fun _ => ?_
  cases lock with
  | none => exact .ok _
  | some column =>
    exact (isForeign_originalOf _ _).bind fun current => (isForeign_nextVersion _).bind fun _ =>
      (isForeign_requireColumn t column).bind fun _ => .ok _

theorem isForeign_conditions (w : Write) : IsForeign w.conditions := by
  refine (isForeign_ofValue _).bind fun kc => ?_
  dsimp only
  split
  · exact .ok _
  · exact (isForeign_ofValue _).bind fun _ => .ok _

theorem isForeign_columnNames (values : Table) : IsForeign (columnNames values) := by
  refine (IsForeign.mapM ?_ _).bind fun named => (isForeign_needFreeNames _ _ _).bind fun _ => .ok _
  intro (k, v)
  dsimp only
  split <;> simp [Fault.isOwn]

theorem isForeign_cells (t : Relation) (values : Table) : IsForeign (cells t values) := by
  refine (isForeign_columnNames values).bind fun named => ?_
  dsimp only
  split
  · exact IsForeign.error_iff.mpr rfl
  · exact .mapM (fun _ => (isForeign_ofValue _).bind fun _ => .ok _) _

theorem isForeign_run (t : Relation) (w : Write) : IsForeign (w.run t) := by
  unfold run
  split
  · exact w.isForeign_conditions.bind fun _ => .ok _
  · refine (isForeign_cells t w.values).bind fun cs =>
      w.isForeign_conditions.bind fun conditions => ?_
    unfold Relation.update
    dsimp only
    split
    · exact .ok _
    · split <;> simp [Fault.isOwn]

end Write

/-- A table, and the writes that have been sent to it. -/
structure Store where
  table : Relation
  sent : List Write

/-- Sends a write to the table, which counts the rows it was for. One that fails leaves the table as
it is. -/
def Store.send (w : Write) : Check Store Nat := do
  modifyThe Store fun s => { s with sent := s.sent ++ [w] }
  let s ← getThe Store
  let (after, n) ← Check.ofExcept (w.run s.table)
  set { s with table := after }
  return n

/-- Writes a changeset to a store one step after the other: what was done before a failure stays
done. -/
def Changeset.applyTo (cs : Changeset) (key : String) (lock : Option String) :
    Check Store Value := do
  if !cs.isValid then throw (.invalidChangeset (← cs.errorsOn))
  let s ← getThe Store
  let w ← Check.ofExcept (Write.ofChangeset s.table cs key lock)
  let n ← Store.send w
  if n = 0 then throw (.staleRecord s.table.name w.key w.keyValue)
  let fields := (cs.changes.elements?.getD []).filterMap Value.text?
  Act.log (appliedEvent s.table fields w.keyValue)
  return w.version

section

variable {s s' : Store} {cs : Changeset} {key : String} {lock : Option String} {w : Write}
  {world world' : World} {n : Nat} {after : Relation} {f : Fault}

theorem Store.send_run (w : Write) (s : Store) (world : World) :
    ((send w).runOn s).run world = match w.run s.table with
      | .ok (after, n) => ((.ok n, ⟨after, s.sent ++ [w]⟩), world)
      | .error f => ((.error f, ⟨s.table, s.sent ++ [w]⟩), world) := by
  have hsend : ((send w).runOn s).run world = ((do
      let (after, n) ← Check.ofExcept (w.run s.table)
      set (⟨after, s.sent ++ [w]⟩ : Store)
      return n : Check Store Nat).runOn ⟨s.table, s.sent ++ [w]⟩).run world := rfl
  have hrun : ((Check.ofExcept (w.run s.table) : Check Store (Relation × Nat)).runOn
      ⟨s.table, s.sent ++ [w]⟩).run world =
        ((w.run s.table, ⟨s.table, s.sent ++ [w]⟩), world) := rfl
  rw [hsend, Check.run_bind, hrun]
  cases w.run s.table with
  | error f => rfl
  | ok p => rfl

namespace Changeset

theorem applyTo_run_of_errors (h : cs.isValid = false) (s : Store) (world : World) :
    ((cs.applyTo key lock).runOn s).run world =
      match cs.errorsOn.run.run world with
      | (.ok messages, world') => ((.error (.invalidChangeset messages), s), world')
      | (.error f, world') => ((.error f, s), world') := by
  unfold applyTo
  simp only [h, Bool.not_false, if_true]
  rw [Check.run_bind, Check.lift_run]
  rcases cs.errorsOn.run.run world with ⟨_ | messages, world'⟩
  · rfl
  · rfl

theorem applyTo_run_of_valid (h : cs.isValid = true) (key : String) (lock : Option String)
    (s : Store) (world : World) :
    ((cs.applyTo key lock).runOn s).run world =
      match Write.ofChangeset s.table cs key lock with
      | .error f => ((.error f, s), world)
      | .ok w => match w.run s.table with
        | .error f => ((.error f, ⟨s.table, s.sent ++ [w]⟩), world)
        | .ok (after, n) =>
          if n = 0 then
            ((.error (.staleRecord s.table.name w.key w.keyValue), ⟨after, s.sent ++ [w]⟩), world)
          else ((.ok w.version, ⟨after, s.sent ++ [w]⟩), { world with
            log := world.log.write (appliedEvent s.table
              ((cs.changes.elements?.getD []).filterMap Value.text?) w.keyValue) }) := by
  unfold applyTo
  simp only [h, Bool.not_true, Bool.false_eq_true, if_false]
  rw [Check.run_bind]
  have hget : ((getThe Store : Check Store Store).runOn s).run world = ((.ok s, s), world) := rfl
  have hmake : ((Check.ofExcept (Write.ofChangeset s.table cs key lock) : Check Store Write).runOn
      s).run world = ((Write.ofChangeset s.table cs key lock, s), world) := rfl
  rw [hget]
  dsimp only
  rw [Check.run_bind, hmake]
  cases Write.ofChangeset s.table cs key lock with
  | error f => rfl
  | ok w =>
    dsimp only
    rw [Check.run_bind, Store.send_run]
    cases w.run s.table with
    | error f => rfl
    | ok p =>
      dsimp only
      by_cases hn : p.2 = 0
      · rw [if_pos hn, if_pos hn]
        rfl
      · rw [if_neg hn, if_neg hn]
        rfl

/-- Writing a changeset to a table answers what writing it to a store with that table does, and the
table that is in the store then. -/
theorem apply_run (cs : Changeset) (key : String) (lock : Option String) (s : Store)
    (world : World) : (cs.apply s.table key lock).run.run world =
      match ((cs.applyTo key lock).runOn s).run world with
      | ((.ok v, s'), world') => (.ok (s'.table, v), world')
      | ((.error f, _), world') => (.error f, world') := by
  unfold apply
  -- both take the same steps: the one answers the table, and the other keeps it in the store
  cases hv : cs.isValid with
  | false =>
    rw [applyTo_run_of_errors hv]
    simp only [Bool.not_false, if_true]
    rw [Act.run_bind]
    rcases cs.errorsOn.run.run world with ⟨_ | messages, world'⟩
    · rfl
    · rfl
  | true =>
    rw [applyTo_run_of_valid hv]
    simp only [Bool.not_true, Bool.false_eq_true, if_false]
    have hact : ∀ {α : Type} (x : Except Fault α), (Act.ofExcept x).run.run world = (x, world) :=
      fun _ => rfl
    rw [Act.run_bind, hact]
    cases Write.ofChangeset s.table cs key lock with
    | error f => rfl
    | ok w =>
      dsimp only
      rw [Act.run_bind, hact, Write.commit]
      cases w.run s.table with
      | error f => rfl
      | ok p =>
        rw [ok_bind]
        dsimp only
        by_cases hn : p.2 = 0
        · rw [if_pos hn, if_pos hn]
          rfl
        · rw [if_neg hn, if_neg hn]
          rfl

/-- The ways in which writing a changeset to a store can go, with what it comes to and the store that it
leaves. -/
inductive Applied (cs : Changeset) (key : String) (lock : Option String) (s : Store)
    (world : World) : Except Fault Value → Store → Prop
  | invalid {messages : List (String × List String)} (hv : cs.isValid = false)
      (he : (cs.errorsOn.run.run world).1 = .ok messages) :
      Applied cs key lock s world (.error (.invalidChangeset messages)) s
  | untold {f : Fault} (hv : cs.isValid = false) (he : (cs.errorsOn.run.run world).1 = .error f) :
      Applied cs key lock s world (.error f) s
  | unready {f : Fault} (hv : cs.isValid = true)
      (hw : Write.ofChangeset s.table cs key lock = .error f) :
      Applied cs key lock s world (.error f) s
  | failed {w : Write} {f : Fault} (hv : cs.isValid = true)
      (hw : Write.ofChangeset s.table cs key lock = .ok w) (hr : w.run s.table = .error f) :
      Applied cs key lock s world (.error f) ⟨s.table, s.sent ++ [w]⟩
  | stale {w : Write} {after : Relation} (hv : cs.isValid = true)
      (hw : Write.ofChangeset s.table cs key lock = .ok w) (hr : w.run s.table = .ok (after, 0)) :
      Applied cs key lock s world (.error (.staleRecord s.table.name w.key w.keyValue))
        ⟨after, s.sent ++ [w]⟩
  | written {w : Write} {after : Relation} {n : Nat} (hv : cs.isValid = true)
      (hw : Write.ofChangeset s.table cs key lock = .ok w) (hr : w.run s.table = .ok (after, n))
      (hn : n ≠ 0) : Applied cs key lock s world (.ok w.version) ⟨after, s.sent ++ [w]⟩

theorem applied_of_run {outcome : Except Fault Value}
    (h : ((cs.applyTo key lock).runOn s).run world = ((outcome, s'), world')) :
    cs.Applied key lock s world outcome s' := by
  cases hv : cs.isValid with
  | false =>
    rw [applyTo_run_of_errors hv] at h
    split at h
    next he =>
      cases h
      exact .invalid hv (by rw [he])
    next he =>
      cases h
      exact .untold hv (by rw [he])
  | true =>
    rw [applyTo_run_of_valid hv] at h
    split at h
    next hw =>
      cases h
      exact .unready hv hw
    next w hw =>
      split at h
      next hr =>
        cases h
        exact .failed hv hw hr
      next after n hr =>
        split at h
        next hn =>
          cases h
          exact .stale hv hw (hn ▸ hr)
        next hn =>
          cases h
          exact .written hv hw hr hn

namespace Applied

/-- What was sent before a failure had failed itself, or was for no row. -/
theorem table_eq (h : cs.Applied key lock s world (.error f) s') : s'.table = s.table := by
  cases h with
  | stale _ _ hr =>
    obtain ⟨_, _, _, hzero, _⟩ := Write.run_eq_ok hr
    exact hzero rfl
  | _ => rfl

theorem of_errors {outcome : Except Fault Value} (hv : cs.isValid = false)
    (h : cs.Applied key lock s world outcome s') :
    s' = s ∧ outcome = match (cs.errorsOn.run.run world).1 with
      | .ok messages => .error (.invalidChangeset messages)
      | .error f => .error f := by
  cases h with
  | invalid _ he => exact ⟨rfl, by rw [he]⟩
  | untold _ he => exact ⟨rfl, by rw [he]⟩
  | unready hvalid | failed hvalid | stale hvalid | written hvalid =>
    rw [hv] at hvalid
    cases hvalid

/-- A store never refuses a write as that of an invalid changeset. -/
theorem isValid_eq_false {messages : List (String × List String)}
    (h : cs.Applied key lock s world (.error (.invalidChangeset messages)) s') :
    cs.isValid = false := by
  cases h with
  | invalid hv | untold hv => exact hv
  | unready _ hw => cases Write.isForeign_ofChangeset _ _ _ _ _ hw
  | failed _ _ hr => cases Write.isForeign_run _ _ _ hr

theorem of_write {outcome : Except Fault Value} (hv : cs.isValid = true)
    (hw : Write.ofChangeset s.table cs key lock = .ok w) (hr : w.run s.table = .ok (after, n))
    (h : cs.Applied key lock s world outcome s') :
    ((∀ r ∈ s.table.rows, ¬s.table.IsCurrent cs key lock r) →
      outcome = .error (.staleRecord s.table.name key w.keyValue)) ∧
    ((∃ r ∈ s.table.rows, s.table.IsCurrent cs key lock r) → outcome = .ok w.version) := by
  have hof := Write.isOf_of_ofChangeset hw
  obtain ⟨conditions, hc, hcount, _⟩ := Write.run_eq_ok hr
  have hnone : n = 0 ↔ ∀ r ∈ s.table.rows, ¬s.table.IsCurrent cs key lock r := by
    rw [hcount, List.countP_eq_zero]
    exact forall₂_congr fun r _ => not_congr (Write.selects_iff_isCurrent hof hc)
  -- the write and what comes of it are the ones given, so the rows that it was for decide
  cases h with
  | invalid hinvalid | untold hinvalid =>
    rw [hv] at hinvalid
    cases hinvalid
  | unready _ hw' =>
    rw [hw] at hw'
    cases hw'
  | failed _ hw' hr' =>
    rw [hw] at hw'
    cases hw'
    rw [hr] at hr'
    cases hr'
  | stale _ hw' hr' =>
    rw [hw] at hw'
    cases hw'
    rw [hr] at hr'
    cases hr'
    rw [hof.keyColumn]
    refine ⟨fun _ => rfl, ?_⟩
    rintro ⟨r, hmem, hcur⟩
    exact absurd hcur (hnone.mp rfl r hmem)
  | written _ hw' hr' hn =>
    rw [hw] at hw'
    cases hw'
    rw [hr] at hr'
    cases hr'
    exact ⟨fun hall => absurd (hnone.mpr hall) hn, fun _ => rfl⟩

theorem table_of_nothing {outcome : Except Fault Value} (hitems : cs.changes.toTable = .ok [])
    (h : cs.Applied key none s world outcome s') : s'.table = s.table := by
  cases outcome with
  | error f => exact h.table_eq
  | ok v =>
    cases h with
    | written _ hw hr _ =>
      obtain ⟨pending, hp, hvalues⟩ := (Write.isOf_of_ofChangeset hw).values
      obtain ⟨_, _, _, _, hempty⟩ := Write.run_eq_ok hr
      rw [hitems] at hp
      cases hp
      exact hempty hvalues

end Applied

/-- A write that fails leaves no trace in the table. A changeset with errors is refused with its
messages before anything is sent. One without is refused as stale, if the table takes the write, when
no row is as it was read. -/
theorem apply_leaves_no_trace (number id : Nat) (data schema : Value) (items : Table)
    (errors : List FieldError) (key : String) (lock : Option String) (s : Store) (world : World) :
    let cs := Changeset.mk number data (.dict id items) schema errors
    ∃ outcome s' world', ((cs.applyTo key lock).runOn s).run world = ((outcome, s'), world') ∧
      (cs.apply s.table key lock).run.run world = (outcome.map fun v => (s'.table, v), world') ∧
      (∀ f, outcome = .error f → s'.table = s.table) ∧
      (errors ≠ [] → s' = s ∧ outcome = match (cs.errorsOn.run.run world).1 with
        | .ok messages => .error (.invalidChangeset messages)
        | .error f => .error f) ∧
      (errors = [] → ∀ messages, outcome ≠ .error (.invalidChangeset messages)) ∧
      (errors = [] → ∀ w p, Write.ofChangeset s.table cs key lock = .ok w → w.run s.table = .ok p →
        ((∀ r ∈ s.table.rows, ¬s.table.IsCurrent cs key lock r) →
          outcome = .error (.staleRecord s.table.name key w.keyValue)) ∧
        ((∃ r ∈ s.table.rows, s.table.IsCurrent cs key lock r) → outcome = .ok w.version)) ∧
      (items = [] → lock = none → s'.table = s.table) := by
  intro cs
  rcases hrun : ((cs.applyTo key lock).runOn s).run world with ⟨⟨outcome, s'⟩, world'⟩
  have happlied : cs.Applied key lock s world outcome s' := applied_of_run hrun
  have hvalid : errors = [] → cs.isValid = true := by
    rintro rfl
    rfl
  refine ⟨outcome, s', world', rfl, ?_, ?_, ?_, ?_, ?_, ?_⟩
  · rw [apply_run, hrun]
    cases outcome with
    | error f => rfl
    | ok v => rfl
  · rintro f rfl
    exact happlied.table_eq
  · intro hne
    have hinvalid : cs.isValid = false := by
      cases errors with
      | nil => exact absurd rfl hne
      | cons e errors => rfl
    exact happlied.of_errors hinvalid
  · rintro hnil messages rfl
    have hinvalid := happlied.isValid_eq_false
    rw [hvalid hnil] at hinvalid
    cases hinvalid
  · intro hnil w p hw hr
    exact happlied.of_write (hvalid hnil) hw hr
  · rintro hitems rfl
    have htable : cs.changes.toTable = .ok [] := congrArg Except.ok hitems
    exact happlied.table_of_nothing htable

/-- A message for which the token for absent values cannot be read is a failure of its own. -/
theorem apply_unreadable_token :
    let cs : Changeset := .mk 0 (.dict 0 [(.text "id", .int 1)]) (.dict 0 []) (.type "dict")
      [.mk "state" "\x7bold\x7d" [("old", .none)]]
    let t : Relation := ⟨"todos", [⟨"id", .int, true, true⟩], [[("id", .int 1)]]⟩
    let world : World := { surroundings := { vars := [("STATETRANSIT_VERBOSE", "maybe")] } }
    cs.errors ≠ [] ∧ ((cs.apply t "id" none).run.run world).1 =
      .error (.rejected [Issue.at "verbose" .unreadableTruth]) := by
  intro cs t world
  have htoken : world.displayed .none = .error (.rejected [Issue.at "verbose" .unreadableTruth]) := by
    show (Settings.load world.surroundings none none []).map _ = _
    rw [Settings.load_unreadable (by decide +kernel)]
    rfl
  have hsaid : cs.errors.mapM (FieldError.said world) =
      .error (.rejected [Issue.at "verbose" .unreadableTruth]) := by
    have hcut : Template.segments "\x7bold\x7d".toList = [.placeholder ['o', 'l', 'd']] := by
      decide +kernel
    have hrender : Template.render world.displayed "\x7bold\x7d" [(.text "old", .none)] =
        .error (.rejected [Issue.at "verbose" .unreadableTruth]) := by
      rw [Template.render, hcut]
      show ((world.displayed .none >>= _) >>= _) = _
      rw [htoken]
      rfl
    show ((Template.render world.displayed "\x7bold\x7d" [(.text "old", .none)] >>= _) >>= _) = _
    rw [hrender]
    rfl
  obtain ⟨world', hrun, _⟩ := cs.steady_errorsOn world world (World.Like.refl world)
  rw [hsaid] at hrun
  refine ⟨nofun, ?_⟩
  rw [cs.apply_run "id" none ⟨t, []⟩ world, applyTo_run_of_errors rfl, hrun]
  rfl

end Changeset

end

end Lifecycle
