import PageLayers.Json.Basic
import PageLayers.Number.Shortest

/-!
Writing JSON text in ASCII: a space after each comma and colon, short escapes where there are any,
and other characters as UTF-16 code units.
-/

namespace PageLayers.Json

def hexDigit (n : Nat) : Char := if n < 10 then Char.ofNat (48 + n) else Char.ofNat (87 + n)

def unitEscape (n : Nat) : List Char :=
  ['\\', 'u', hexDigit (n / 4096 % 16), hexDigit (n / 256 % 16), hexDigit (n / 16 % 16),
    hexDigit (n % 16)]

def quoteChar (c : Char) : List Char :=
  if c = '"' then ['\\', '"']
  else if c = '\\' then ['\\', '\\']
  else if c = '\n' then ['\\', 'n']
  else if c = '\r' then ['\\', 'r']
  else if c = '\t' then ['\\', 't']
  else if c.toNat = 0x08 then ['\\', 'b']
  else if c.toNat = 0x0C then ['\\', 'f']
  else if c.toNat < 0x20 then unitEscape c.toNat
  else if c.toNat < 0x7F then [c]
  else if c.toNat < 0x10000 then unitEscape c.toNat
  else
    let n := c.toNat - 0x10000
    unitEscape (0xD800 + n / 0x400) ++ unitEscape (0xDC00 + n % 0x400)

def quote (s : String) : List Char := '"' :: s.toList.flatMap quoteChar ++ ['"']

def floatChars (x : Binary64) : List Char := (Number.floatText "NaN" "Infinity" x).toList

mutual
def renderChars : Json → List Char
  | null => "null".toList
  | bool b => (if b then "true" else "false").toList
  | int n => (toString n).toList
  | float x => floatChars x
  | text s => quote s
  | array xs => '[' :: renderElements xs ++ [']']
  | object ms => '{' :: renderMembers ms ++ ['}']

def renderElements : List Json → List Char
  | [] => []
  | [x] => renderChars x
  | x :: xs => renderChars x ++ ',' :: ' ' :: renderElements xs

def renderMembers : List (String × Json) → List Char
  | [] => []
  | [(k, v)] => quote k ++ ':' :: ' ' :: renderChars v
  | (k, v) :: ms => quote k ++ ':' :: ' ' :: renderChars v ++ ',' :: ' ' :: renderMembers ms
end

def render (j : Json) : String := .ofList j.renderChars

end PageLayers.Json
