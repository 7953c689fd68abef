import PageLayers.Text.CaseTable

/-!
Lower case and case folding of texts, with the full mappings: one character can become several, and
the lower case of a sigma depends on its neighbours.
-/

namespace PageLayers.Text

/-- Whether the nearest character that is not passed over has case. -/
def casedAhead (cs : List Char) : Bool :=
  match cs.dropWhile (inRanges caseIgnorableRanges) with
  | [] => false
  | c :: _ => inRanges casedRanges c

def lowerChar (c : Char) : List Char :=
  if c.toNat < 0x80 then [c.toLower]
  else if c = 'İ' then ['i', '\u0307']
  else [throughRuns lowerRuns c]

/-- The lower case of a capital sigma: the final form after a letter with case and before none. -/
def lowerSigma (before after : List Char) : Char :=
  if casedAhead before && !casedAhead after then 'ς' else 'σ'

/-- Lower case of the characters that follow `before`, which holds the nearest first. -/
def lowerFrom (before : List Char) : List Char → List Char
  | [] => []
  | c :: cs =>
    if c = 'Σ' then lowerSigma before cs :: lowerFrom (c :: before) cs
    else lowerChar c ++ lowerFrom (c :: before) cs

def lower (s : String) : String := .ofList (lowerFrom [] s.toList)

def foldChar (c : Char) : List Char :=
  if c.toNat < 0x80 then [c.toLower]
  else match foldSequences.lookup c with
    | some folded => folded.toList
    | none => [throughRuns foldRuns c]

def foldCase (cs : List Char) : List Char := cs.flatMap foldChar

end PageLayers.Text
