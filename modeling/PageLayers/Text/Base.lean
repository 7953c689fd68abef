import Std.Data.HashMap
import PageLayers.Text.BaseTable

/-!
The base characters of a text: its full compatibility decomposition without the combining marks, so
that an accented letter counts as the letter. Decomposition fixes an order of marks; since all marks
are dropped afterwards, the base characters of a text are those of its characters in turn.
-/

namespace PageLayers.Text

/-- Cuts a row into its entries; `fuel` bounds their number. -/
def BaseRow.entriesWithin (width : Nat) : Nat → List Char → List (Char × List Char)
  | 0, _ => []
  | _ + 1, [] => []
  | fuel + 1, c :: cs => (c, cs.take width) :: entriesWithin width fuel (cs.drop width)

def BaseRow.entries (row : BaseRow) : List (Char × List Char) :=
  entriesWithin row.width row.text.length row.text.toList

def baseTable : Std.HashMap Nat (List Char) :=
  .ofList ((baseRows.flatMap BaseRow.entries).map fun (c, base) => (c.toNat, base))

def hangulJamo (c : Char) : List Char :=
  let i := c.toNat - 0xAC00
  let head := [Char.ofNat (0x1100 + i / 588), Char.ofNat (0x1161 + i % 588 / 28)]
  if i % 28 = 0 then head else head ++ [Char.ofNat (0x11A7 + i % 28)]

def baseChars (c : Char) : List Char :=
  if c.toNat < 0x80 then [c]
  else if inRanges combiningRanges c then []
  else if 0xAC00 ≤ c.toNat && c.toNat ≤ 0xD7A3 then hangulJamo c
  else (baseTable[c.toNat]?).getD [c]

def toBase (cs : List Char) : List Char := cs.flatMap baseChars

end PageLayers.Text
