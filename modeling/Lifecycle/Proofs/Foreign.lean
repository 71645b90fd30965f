import Lifecycle.Proofs.Success
import Lifecycle.Value.Declared

namespace Lifecycle

/-- The faults that are told in the library's own terms: of a declaration, a rule set, a strategy, a
changeset or a document, and not of the values these are made of. -/
def Fault.isOwn : Fault → Bool
  | .badDocument _ | .notADomain _ | .sharedAlternate .. | .notRules _ | .notAnEntry _ => true
  | .unknownState .. | .notPrimary .. => true
  | .notAStrategy _ | .notAnExternal _ | .noQuery .. => true
  | .invalidChangeset _ | .staleRecord .. => true
  | _ => false

/-- What goes wrong here, if anything does, is not told in the library's own terms. -/
def IsForeign {α : Type} (x : Except Fault α) : Prop := ∀ f, x = .error f → f.isOwn = false

namespace IsForeign

variable {α β : Type}

@[simp] theorem ok (a : α) : IsForeign (.ok a) := by
  intro f h
  cases h

@[simp] theorem error_iff {f : Fault} :
    IsForeign (.error f : Except Fault α) ↔ f.isOwn = false := by
  constructor
  · intro h
    exact h f rfl
  · intro h g hg
    cases hg
    exact h

theorem bind {x : Except Fault α} {g : α → Except Fault β} (hx : IsForeign x)
    (hg : ∀ a, IsForeign (g a)) : IsForeign (x >>= g) := by
  cases x with
  | error f => exact error_iff.mpr (hx f rfl)
  | ok a => exact hg a

theorem map {x : Except Fault α} (hx : IsForeign x) (g : α → β) : IsForeign (x.map g) := by
  cases x with
  | error f => exact error_iff.mpr (hx f rfl)
  | ok a => exact ok (g a)

theorem mapM {g : α → Except Fault β} (hg : ∀ a, IsForeign (g a)) (xs : List α) :
    IsForeign (xs.mapM g) := by
  induction xs with
  | nil => exact ok []
  | cons x xs ih =>
    rw [List.mapM_cons]
    exact (hg x).bind fun _ => ih.bind fun _ => ok _

theorem forM {g : α → Except Fault Unit} (hg : ∀ a, IsForeign (g a)) (xs : List α) :
    IsForeign (xs.forM g) := by
  induction xs with
  | nil => exact ok ()
  | cons x xs ih => exact (hg x).bind fun _ => ih

end IsForeign

theorem isForeign_needHashable (v : Value) : IsForeign v.needHashable := by
  unfold Value.needHashable
  split
  · exact .ok _
  · exact IsForeign.error_iff.mpr rfl

theorem isForeign_needAllHashable (xs : List Value) : IsForeign (needAllHashable xs) :=
  .forM isForeign_needHashable xs

theorem isForeign_needFreeNames (callee : String) (taken : List String)
    (named : List (String × Value)) : IsForeign (needFreeNames callee taken named) := by
  unfold needFreeNames
  split <;> simp [Fault.isOwn]

namespace Value

variable {α : Type}

@[simp] theorem isForeign_told (text : String) : IsForeign (told text : Except Fault α) :=
  IsForeign.error_iff.mpr rfl

@[simp] theorem isForeign_badValue (text : String) : IsForeign (badValue text : Except Fault α) :=
  IsForeign.error_iff.mpr rfl

@[simp] theorem isForeign_index (v : Value) : IsForeign v.index := by
  unfold index
  split <;> simp

@[simp] theorem isForeign_needElements (v : Value) : IsForeign v.needElements := by
  unfold needElements
  split <;> simp [Fault.isOwn]

theorem isForeign_entryOf (i : Nat) (v : Value) : IsForeign (entryOf i v) := by
  unfold entryOf
  split <;> simp [Fault.isOwn]

@[simp] theorem isForeign_toTable (v : Value) : IsForeign v.toTable := by
  unfold toTable
  split
  · exact .ok _
  · split
    · have hentries : ∀ xs : List (Value × Nat),
          IsForeign (xs.mapM fun x => entryOf x.2 x.1) :=
        .mapM fun x => isForeign_entryOf x.2 x.1
      exact (hentries _).bind fun _ => (isForeign_needAllHashable _).bind fun _ => .ok _
    · exact IsForeign.error_iff.mpr rfl

theorem isForeign_readNumeral (base : Nat) (v : Value) (cs : List Char) :
    IsForeign (readNumeral base v cs) := by
  unfold readNumeral
  split <;> simp [Fault.isOwn]

@[simp] theorem isForeign_wholeNumber (v : Value) : IsForeign v.wholeNumber := by
  unfold wholeNumber
  split
  · split <;> simp [Fault.isOwn]
  · exact IsForeign.error_iff.mpr rfl
  · exact .ok _
  · exact isForeign_readNumeral _ _ _
  · exact isForeign_told _

theorem isForeign_wholeNumberIn (v base : Value) : IsForeign (v.wholeNumberIn base) := by
  unfold wholeNumberIn
  split
  · exact isForeign_told _
  · split
    · exact IsForeign.error_iff.mpr rfl
    · split
      · exact isForeign_readNumeral _ _ _
      · exact isForeign_told _

@[simp] theorem isForeign_makeInt (args : List Value) : IsForeign (makeInt args) := by
  unfold makeInt
  split
  · exact .ok _
  · exact isForeign_wholeNumber _
  · exact isForeign_wholeNumberIn _ _
  · exact isForeign_told _

theorem isForeign_textArgument (callee argument : String) (v : Value) :
    IsForeign (textArgument callee argument v) := by
  unfold textArgument
  split
  · split <;> simp [Fault.isOwn]
  · exact isForeign_told _

theorem isForeign_codingArguments (callee : String) (args : List Value) :
    IsForeign (codingArguments callee args) := by
  unfold codingArguments
  split
  · exact (isForeign_textArgument _ _ _).bind fun _ =>
      (isForeign_textArgument _ _ _).bind fun _ => .ok _
  · exact (isForeign_textArgument _ _ _).bind fun _ => .ok _
  · exact .ok _

theorem isForeign_encodingOf (name : String) : IsForeign (encodingOf name) := by
  unfold encodingOf
  split <;> simp [Fault.isOwn]

theorem isForeign_handlingOf (name : String) : IsForeign (handlingOf name) := by
  unfold handlingOf
  split <;> simp [Fault.isOwn]

theorem isForeign_decodeBytes (bs : List UInt8) (encoding handling : String) :
    IsForeign (decodeBytes bs encoding handling) := by
  unfold decodeBytes
  split
  · exact .ok _
  · refine (isForeign_encodingOf _).bind fun e => ?_
    split
    · exact .ok _
    · refine (isForeign_handlingOf _).bind fun h => ?_
      split
      · exact .ok _
      · exact IsForeign.error_iff.mpr rfl

theorem isForeign_encodeText (s encoding handling : String) :
    IsForeign (encodeText s encoding handling) := by
  unfold encodeText
  refine (isForeign_encodingOf _).bind fun e => ?_
  split
  · exact .ok _
  · refine (isForeign_handlingOf _).bind fun h => ?_
    split
    · exact .ok _
    · exact IsForeign.error_iff.mpr rfl

@[simp] theorem isForeign_makeText (args : List Value) : IsForeign (makeText args) := by
  unfold makeText
  split
  · exact .ok _
  · exact .ok _
  · split
    · exact isForeign_told _
    · refine (isForeign_codingArguments _ _).bind fun ⟨encoding, handling⟩ => ?_
      dsimp only
      split
      · exact isForeign_decodeBytes _ _ _
      · exact isForeign_told _
      · exact isForeign_told _

@[simp] theorem isForeign_makeBytes (v : Value) (coding : List Value) :
    IsForeign (makeBytes v coding) := by
  unfold makeBytes
  split
  · exact isForeign_told _
  · refine (isForeign_codingArguments _ _).bind fun ⟨encoding, handling⟩ => ?_
    dsimp only
    split
    · exact isForeign_encodeText _ _ _
    · exact isForeign_told _

theorem isForeign_real (missing : String) (v : Value) : IsForeign (Directive.real missing v) := by
  unfold Directive.real
  split
  · exact .ok _
  · split <;> simp [Fault.isOwn]
  · exact isForeign_told _

theorem isForeign_realNumber (v : Value) : IsForeign v.realNumber := by
  unfold realNumber
  split
  · exact .ok _
  · exact .ok _
  · exact (isForeign_real _ _).bind fun _ => .ok _
  · split
    · exact .ok _
    · exact .ok _
    · exact isForeign_badValue _
  · exact isForeign_told _

theorem isForeign_byteOf (v : Value) : IsForeign (Whole.byteOf v) := by
  unfold Whole.byteOf
  refine (isForeign_index v).bind fun n => ?_
  split
  · exact .ok _
  · exact isForeign_badValue _

theorem isForeign_bytesOf (v : Value) : IsForeign (Whole.bytesOf v) := by
  unfold Whole.bytesOf
  split
  · exact .ok _
  · exact .mapM isForeign_byteOf _
  · exact isForeign_told _

theorem isForeign_bytesFrom (v : Value) : IsForeign (bytesFrom v) := by
  unfold bytesFrom
  split
  · exact isForeign_told _
  · dsimp only
    split
    · exact isForeign_badValue "negative count"
    · split
      · exact IsForeign.error_iff.mpr rfl
      · exact .ok _
  · exact isForeign_bytesOf v

theorem isForeign_makeSet (id : Nat) (frozen : Bool) (xs : List Value) :
    IsForeign (makeSet id frozen xs) :=
  (isForeign_needAllHashable xs).bind fun _ => .ok _

theorem isForeign_empty (type : String) : IsForeign (empty type) := by
  unfold empty
  split <;> simp

theorem isForeign_converted (type : String) (v : Value) : IsForeign (converted type v) := by
  unfold converted
  split
  · exact v.isForeign_wholeNumber.bind fun _ => .ok _
  · exact .ok _
  · exact v.isForeign_realNumber
  · exact .ok _
  · exact v.isForeign_bytesFrom.bind fun _ => .ok _
  · exact v.isForeign_needElements.bind fun _ => .ok _
  · exact v.isForeign_needElements.bind fun _ => .ok _
  · exact v.isForeign_toTable.bind fun _ => .ok _
  · exact v.isForeign_needElements.bind fun _ => isForeign_makeSet _ _ _
  · exact v.isForeign_needElements.bind fun _ => isForeign_makeSet _ _ _
  · exact v.isForeign_index.bind fun _ => .ok _
  · exact .ok _
  · exact IsForeign.error_iff.mpr rfl
  · exact isForeign_told _
  · exact isForeign_told _

theorem isForeign_construct (type : String) (args : List Value) :
    IsForeign (construct type args) := by
  unfold construct
  split
  · exact isForeign_empty _
  · exact isForeign_converted _ _
  · exact (isForeign_makeInt _).bind fun _ => .ok _
  · exact (isForeign_makeText _).bind fun _ => .ok _
  · exact (isForeign_makeBytes _ _).bind fun _ => .ok _
  · exact (isForeign_index _).bind fun _ => (isForeign_index _).bind fun _ => .ok _
  · refine (isForeign_index _).bind fun _ => (isForeign_index _).bind fun _ =>
      (isForeign_index _).bind fun c => ?_
    dsimp only
    split
    · exact isForeign_badValue "range() arg 3 must not be zero"
    · exact .ok _
  · exact isForeign_told _
  · exact IsForeign.error_iff.mpr rfl
  · exact isForeign_told _
  · exact isForeign_told _
  · exact isForeign_told _
  · exact isForeign_told _
  · exact isForeign_told _

theorem isForeign_memberOf (e : Enumeration) (v : Value) : IsForeign (e.memberOf v) := by
  have hvalue : IsForeign (Enumeration.memberOf.byValue e v) := by
    unfold Enumeration.memberOf.byValue
    split <;> simp [Fault.isOwn]
  unfold Enumeration.memberOf
  split
  · split
    · exact .ok _
    · exact hvalue
  · exact hvalue

theorem isForeign_call (e : Enumeration) (args : List Value) : IsForeign (e.call args) := by
  unfold Enumeration.call
  split
  · exact IsForeign.error_iff.mpr rfl
  · exact isForeign_memberOf _ _
  · exact isForeign_memberOf _ _
  · split
    · exact IsForeign.error_iff.mpr rfl
    · split <;> simp [Fault.isOwn]
  · exact IsForeign.error_iff.mpr rfl

theorem isForeign_callBriefly (f : Value) (args : List Value) :
    IsForeign (f.callBriefly args) := by
  unfold callBriefly
  split
  · exact isForeign_construct _ _
  · exact isForeign_call _ _
  · split <;> simp [Fault.isOwn]
  · exact IsForeign.error_iff.mpr rfl
  · exact isForeign_told _
  · exact IsForeign.error_iff.mpr rfl

theorem isForeign_lookup (v : Value) (name : String) : IsForeign (v.lookup name) := by
  unfold lookup
  split
  · exact .ok _
  · exact (isForeign_callBriefly _ _).map some
  · exact .ok _

end Value

end Lifecycle
