import Lifecycle.Collection
import Lifecycle.Text.WordChar

namespace Lifecycle

/-- A piece of a message template: a character that stands for itself, or a name in curly brackets. -/
inductive Segment where
  | literal (c : Char)
  | placeholder (name : List Char)
  deriving DecidableEq

namespace Template

def placeholder? (cs : List Char) : Option (List Char × List Char) :=
  match cs.dropWhile Text.isWord with
  | '\x7d' :: rest =>
    if (cs.takeWhile Text.isWord).isEmpty then none else some (cs.takeWhile Text.isWord, rest)
  | _ => none

theorem length_of_placeholder? {cs name rest : List Char}
    (h : placeholder? cs = some (name, rest)) : rest.length < cs.length := by
  unfold placeholder? at h
  split at h
  · next r heq =>
    have hlen := congrArg List.length (List.takeWhile_append_dropWhile (p := Text.isWord) (l := cs))
    split at h
    · simp at h
    · simp only [Option.some.injEq, Prod.mk.injEq] at h
      rw [heq] at hlen
      simp [h.2] at hlen
      omega
  · simp at h

/-- Cuts a template at its placeholders, from the left; a bracket that opens none is a literal. -/
def segments (cs : List Char) : List Segment :=
  match cs with
  | [] => []
  | c :: rest =>
    if c = '\x7b' then
      match _h : placeholder? rest with
      | some (name, after) => .placeholder name :: segments after
      | none => .literal c :: segments rest
    else .literal c :: segments rest
termination_by cs.length
decreasing_by
  · have := length_of_placeholder? _h
    simp
    omega
  · simp
  · simp

/-- What a placeholder is replaced by: its value as it is shown, or the bare name if there is none. -/
def fill {m : Type → Type} [Monad m] (display : Value → m String) (keys : Table) (name : String) :
    m String :=
  match Table.lookup? keys (.text name) with
  | none => pure name
  | some v => display v

def segmentText {m : Type → Type} [Monad m] (display : Value → m String) (keys : Table) :
    Segment → m String
  | .literal c => pure (String.singleton c)
  | .placeholder name => fill display keys (String.ofList name)

/-- Replaces each placeholder once; what is put in is not looked at again. -/
def render {m : Type → Type} [Monad m] (display : Value → m String) (template : String)
    (keys : Table) : m String := do
  let parts ← (segments template.toList).mapM (segmentText display keys)
  return String.join parts

end Template

end Lifecycle
