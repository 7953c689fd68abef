import PageLayers.Text.Range

/-!
Blank characters and what is done with them: cutting them off both ends of a text, and splitting a
text into words. Two sets are in use. Numbers are trimmed of white space in the sense of the Unicode
property; texts are also trimmed of the four information separators.
-/

namespace PageLayers.Text

def whiteSpaceRanges : List CharRange := [
  ⟨0x09, 0x0D⟩, ⟨0x20, 0x20⟩, ⟨0x85, 0x85⟩, ⟨0xA0, 0xA0⟩, ⟨0x1680, 0x1680⟩, ⟨0x2000, 0x200A⟩,
  ⟨0x2028, 0x2029⟩, ⟨0x202F, 0x202F⟩, ⟨0x205F, 0x205F⟩, ⟨0x3000, 0x3000⟩]

def isWhiteSpace (c : Char) : Bool := inRanges whiteSpaceRanges c

/-- Whether the character separates words: white space, and the information separators U+001C to
    U+001F. -/
def isBlank (c : Char) : Bool := isWhiteSpace c || (0x1C ≤ c.toNat && c.toNat ≤ 0x1F)

def trimBoth (p : Char → Bool) (cs : List Char) : List Char :=
  ((cs.dropWhile p).reverse.dropWhile p).reverse

def strip (s : String) : String := .ofList (trimBoth isBlank s.toList)

def gatherWords : List Char → List Char × List String
  | [] => ([], [])
  | c :: cs =>
    let (word, rest) := gatherWords cs
    if isBlank c then ([], if word.isEmpty then rest else .ofList word :: rest)
      else (c :: word, rest)

def words (s : String) : List String :=
  let (word, rest) := gatherWords s.toList
  if word.isEmpty then rest else .ofList word :: rest

end PageLayers.Text
