import PageLayers.Json.Printer
import PageLayers.Text.Printable

/-!
The display text of a JSON value, which stands in for it where a text is wanted: a text is shown as
it is, and everything else in a notation of its own, in which texts within a list or a map are
quoted.
-/

namespace PageLayers.Json

def hexDigits (count n : Nat) : List Char :=
  (List.range count).reverse.map fun i => hexDigit (n / Nat.pow 16 i % 16)

def shownChar (mark c : Char) : List Char :=
  if c = mark || c = '\\' then ['\\', c]
  else if c = '\t' then ['\\', 't']
  else if c = '\n' then ['\\', 'n']
  else if c = '\r' then ['\\', 'r']
  else if Text.isPrintable c then [c]
  else if c.toNat ≤ 0xFF then '\\' :: 'x' :: hexDigits 2 c.toNat
  else if c.toNat ≤ 0xFFFF then '\\' :: 'u' :: hexDigits 4 c.toNat
  else '\\' :: 'U' :: hexDigits 8 c.toNat

/-- A text in single quotes; in double quotes if it has single quotes and no double ones. -/
def shownText (s : String) : List Char :=
  let mark := if s.toList.contains '\'' && !s.toList.contains '"' then '"' else '\''
  mark :: s.toList.flatMap (shownChar mark) ++ [mark]

mutual
def shown : Json → List Char
  | null => "None".toList
  | bool b => (if b then "True" else "False").toList
  | int n => (toString n).toList
  | float x => (Number.floatText "nan" "inf" x).toList
  | text s => shownText s
  | array xs => '[' :: shownElements xs ++ [']']
  | object ms => '{' :: shownMembers ms ++ ['}']

def shownElements : List Json → List Char
  | [] => []
  | [x] => shown x
  | x :: xs => shown x ++ ',' :: ' ' :: shownElements xs

def shownMembers : List (String × Json) → List Char
  | [] => []
  | [(k, v)] => shownText k ++ ':' :: ' ' :: shown v
  | (k, v) :: ms => shownText k ++ ':' :: ' ' :: shown v ++ ',' :: ' ' :: shownMembers ms
end

def display : Json → String
  | text s => s
  | j => .ofList j.shown

end PageLayers.Json
