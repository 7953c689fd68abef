/-!
Texts with tokens in them. From left to right, a token is taken wherever one starts, and scanning
goes on after it; every other character stands for itself.
-/

namespace PageLayers.Text

inductive Piece (τ : Type)
  | literal (c : Char)
  | token (t : τ)
  deriving DecidableEq, Repr

/-- The pieces of a text, of which at most `fuel` are told apart. `recognize` yields the token at
    the front and what follows it. -/
def piecesWithin {τ : Type} (recognize : List Char → Option (τ × List Char)) : Nat → List Char →
    List (Piece τ)
  | 0, cs => cs.map .literal
  | _ + 1, [] => []
  | fuel + 1, c :: cs =>
    match recognize (c :: cs) with
    | some (t, rest) => .token t :: piecesWithin recognize fuel rest
    | none => .literal c :: piecesWithin recognize fuel cs

/-- The pieces of a text. Every piece takes at least one character. -/
def pieces {τ : Type} (recognize : List Char → Option (τ × List Char)) (cs : List Char) :
    List (Piece τ) :=
  piecesWithin recognize cs.length cs

def splitAtWord? (word : List Char) : List Char → Option (List Char × List Char)
  | [] => none
  | c :: cs =>
    if word.isPrefixOf (c :: cs) then some ([], (c :: cs).drop word.length)
    else (splitAtWord? word cs).map fun (before, after) => (c :: before, after)

end PageLayers.Text
