import Lifecycle.Document.Scan

namespace Lifecycle.Document.Toml

def isBlank (c : Char) : Bool := c = ' ' || c = '\t'

def isBlankOrNewline (c : Char) : Bool := isBlank c || c = '\n'

def skipBlanks (cs : List Char) : List Char := cs.dropWhile isBlank

/-- Control characters other than tabs; a text over several lines may hold line ends too. -/
def isForbidden (multiline : Bool) (c : Char) : Bool :=
  (c.toNat < 0x20 || c.toNat = 0x7f) && c ≠ '\t' && !(multiline && c = '\n')

def skipComment : List Char → Option (List Char)
  | '#' :: rest =>
    if (rest.takeWhile (· ≠ '\n')).any (isForbidden false) then none
    else some (rest.dropWhile (· ≠ '\n'))
  | cs => some cs

def codePoint? (digits : List Char) : Option Char :=
  let n := numeral 16 digits
  if digits.all isHexDigit && (n < 0xd800 || (0xdfff < n && n ≤ 0x10ffff)) then some (Char.ofNat n)
  else none

def shortEscape? : Char → Option Char
  | 'b' => some (Char.ofNat 8)
  | 't' => some '\t'
  | 'n' => some '\n'
  | 'f' => some (Char.ofNat 12)
  | 'r' => some '\r'
  | '"' => some '"'
  | '\\' => some '\\'
  | _ => none

/-- What an escape stands for: one character, or nothing where it joins lines. -/
structure Escape where
  written : List Char
  rest : List Char

/-- The escape after a backslash. Over several lines a backslash at the end of one swallows the
blanks and line ends that follow. -/
def readEscape (multiline : Bool) : List Char → Option Escape
  | 'u' :: a :: b :: c :: d :: rest => (codePoint? [a, b, c, d]).map fun x => ⟨[x], rest⟩
  | 'U' :: a :: b :: c :: d :: e :: f :: g :: h :: rest =>
    (codePoint? [a, b, c, d, e, f, g, h]).map fun x => ⟨[x], rest⟩
  | c :: rest =>
    if multiline && c = '\n' then some ⟨[], rest.dropWhile isBlankOrNewline⟩
    else if multiline && isBlank c then
      match skipBlanks rest with
      | [] => some ⟨[], []⟩
      | '\n' :: r => some ⟨[], r.dropWhile isBlankOrNewline⟩
      | _ => none
    else (shortEscape? c).map fun x => ⟨[x], rest⟩
  | [] => none

def readBasic (multiline : Bool) : Nat → List Char → Option (List Char × List Char)
  | 0, _ => none
  | _ + 1, [] => none
  | fuel + 1, c :: rest =>
    if c = '"' then
      if !multiline then some ([], rest)
      else match rest with
        | '"' :: '"' :: r => some ([], r)
        | _ => (readBasic multiline fuel rest).map fun (s, r) => (c :: s, r)
    else if c = '\\' then do
      let e ← readEscape multiline rest
      let (s, r) ← readBasic multiline fuel e.rest
      return (e.written ++ s, r)
    else if isForbidden multiline c then none
    else (readBasic multiline fuel rest).map fun (s, r) => (c :: s, r)

def readLiteral : List Char → Option (List Char × List Char)
  | [] => none
  | '\'' :: rest => some ([], rest)
  | c :: rest =>
    if isForbidden false c then none
    else (readLiteral rest).map fun (s, r) => (c :: s, r)

def readMultilineLiteral : List Char → Option (List Char × List Char)
  | [] => none
  | '\'' :: '\'' :: '\'' :: rest => some ([], rest)
  | c :: rest =>
    if isForbidden true c then none
    else (readMultilineLiteral rest).map fun (s, r) => (c :: s, r)

/-- Up to two quotes may stand before the three that close a text over several lines. -/
def takeExtraQuotes (quote : Char) (s rest : List Char) : List Char × List Char :=
  match rest with
  | a :: r =>
    if a ≠ quote then (s, rest)
    else match r with
      | b :: r' => if b = quote then (s ++ [quote, quote], r') else (s ++ [quote], r)
      | [] => (s ++ [quote], r)
  | [] => (s, rest)

def skipFirstNewline : List Char → List Char
  | '\n' :: rest => rest
  | cs => cs

def readText (cs : List Char) : Option (List Char × List Char) :=
  match cs with
  | '"' :: '"' :: '"' :: rest =>
    (readBasic true (rest.length + 1) (skipFirstNewline rest)).map fun (s, r) =>
      takeExtraQuotes '"' s r
  | '"' :: rest => readBasic false (rest.length + 1) rest
  | '\'' :: '\'' :: '\'' :: rest =>
    (readMultilineLiteral (skipFirstNewline rest)).map fun (s, r) => takeExtraQuotes '\'' s r
  | '\'' :: rest => readLiteral rest
  | _ => none

def isBareKeyChar (c : Char) : Bool := c.isAlphanum || c = '-' || c = '_'

def readKeyPart (cs : List Char) : Option (String × List Char) :=
  match cs with
  | '"' :: rest => (readBasic false (rest.length + 1) rest).map fun (s, r) => (String.ofList s, r)
  | '\'' :: rest => (readLiteral rest).map fun (s, r) => (String.ofList s, r)
  | _ =>
    let part := cs.takeWhile isBareKeyChar
    if part.isEmpty then none else some (String.ofList part, cs.dropWhile isBareKeyChar)

def readKey : Nat → List Char → Option (List String × List Char)
  | 0, _ => none
  | fuel + 1, cs => do
    let (part, rest) ← readKeyPart cs
    match skipBlanks rest with
    | '.' :: r =>
      let (parts, r) ← readKey fuel (skipBlanks r)
      return (part :: parts, r)
    | r => return ([part], r)

end Lifecycle.Document.Toml
