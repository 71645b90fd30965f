namespace Lifecycle.Text

def isLineEnd (c : Char) : Bool :=
  ('\n' ≤ c && c ≤ '\r') || ('\x1c' ≤ c && c ≤ '\x1e') || c = '\u0085' || c = '\u2028' || c = '\u2029'

def addToFirst (c : Char) : List (List Char) → List (List Char)
  | [] => [[c]]
  | line :: lines => (c :: line) :: lines

/-- The lines of a text, with their ends if those are kept; a return followed by a newline is one end.
What follows the last end is a line only if it is not empty. -/
def lines (ends : Char → Bool) (keep : Bool) : List Char → List (List Char)
  | [] => []
  | '\r' :: '\n' :: rest => (if keep then ['\r', '\n'] else []) :: lines ends keep rest
  | c :: rest =>
    if ends c then (if keep then [c] else []) :: lines ends keep rest
    else addToFirst c (lines ends keep rest)

def splitLines (s : String) : List String := (lines isLineEnd false s.toList).map String.ofList

end Lifecycle.Text
