import Lifecycle.Collection

namespace Lifecycle.Document.Json

def unicodeEscape (unit : Nat) : List Char := '\\' :: 'u' :: Text.hexDigits 4 unit

/-- A character inside a string: ASCII throughout, in one or two 16-bit units where need be. -/
def escapeChar (c : Char) : List Char :=
  let n := c.toNat
  if c = '"' || c = '\\' then ['\\', c]
  else if n = 8 then ['\\', 'b']
  else if n = 12 then ['\\', 'f']
  else if c = '\n' then ['\\', 'n']
  else if c = '\r' then ['\\', 'r']
  else if c = '\t' then ['\\', 't']
  else if 0x20 ≤ n && n < 0x7f then [c]
  else if n < 0x10000 then unicodeEscape n
  else
    unicodeEscape (0xd800 + (n - 0x10000) / 0x400) ++ unicodeEscape (0xdc00 + (n - 0x10000) % 0x400)

def quote (s : String) : String := String.ofList ('"' :: s.toList.flatMap escapeChar ++ ['"'])

def floatText : Binary64 → String
  | .infinite negative => if negative then "-Infinity" else "Infinity"
  | x => x.toText

mutual

/-- The text of plain data; anything else is written as the text of its form in messages. -/
def render : Value → String
  | .none => "null"
  | .bool b => if b then "true" else "false"
  | .int n => toString n
  | .float x => floatText x
  | .nan _ => "NaN"
  | .text s => quote s
  | .list _ xs | .tuple xs => "[" ++ commaSeparated (renderAll xs) ++ "]"
  | .dict _ items => braced (commaSeparated (renderEntries items))
  | v => quote v.repr

def renderAll : List Value → List String
  | [] => []
  | x :: xs => render x :: renderAll xs

def renderEntries : List (Value × Value) → List String
  | [] => []
  | (k, v) :: items => (quote k.display ++ ": " ++ render v) :: renderEntries items

end

end Lifecycle.Document.Json
