/-!
Sets and maps of characters given by ranges of code points, the form in which the character tables
of this library are written.
-/

namespace PageLayers.Text

structure CharRange where
  first : Nat
  last : Nat
  deriving DecidableEq, Repr

def inRanges (ranges : List CharRange) (c : Char) : Bool :=
  ranges.any fun r => r.first ≤ c.toNat && c.toNat ≤ r.last

/-- Every `step`-th code point from `first` to `last`, sent to `target` and the code points at the
    same distances after it. -/
structure CharRun where
  first : Nat
  last : Nat
  step : Nat
  target : Nat
  deriving DecidableEq, Repr

def CharRun.covers (r : CharRun) (n : Nat) : Bool :=
  r.first ≤ n && n ≤ r.last && (n - r.first) % r.step == 0

/-- The character that the first run holding `c` sends it to; `c` itself if no run holds it. -/
def throughRuns (runs : List CharRun) (c : Char) : Char :=
  match runs.find? (·.covers c.toNat) with
  | some r => Char.ofNat (r.target + (c.toNat - r.first))
  | none => c

end PageLayers.Text
