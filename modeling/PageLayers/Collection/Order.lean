import PageLayers.Collection.Sorting
import PageLayers.Failure
import PageLayers.Json.Basic
import PageLayers.Number.Reading
import PageLayers.Text.Base
import PageLayers.Text.Case

/-!
The order of items. Two values of a field compare as numbers if both are numbers; otherwise as
texts, first without accents and case and then as they are. Sorting keeps items that compare equal
in their order, in either direction.
-/

namespace PageLayers

def numericPlace? (s : String) : Option ExtendedInt := (Number.readFloat? s).bind Binary64.place?

/-- What texts are compared by first: the base characters without case. -/
def textKey (s : String) : List Char := Text.foldCase (Text.toBase s.toList)

def compareChars : List Char → List Char → Ordering
  | [], [] => .eq
  | [], _ :: _ => .lt
  | _ :: _, [] => .gt
  | a :: as, b :: bs =>
    if a.toNat < b.toNat then .lt else if b.toNat < a.toNat then .gt else compareChars as bs

def compareTexts (a b : String) : Ordering :=
  (compareChars (textKey a) (textKey b)).then (compareChars a.toList b.toList)

def compareValues (a b : String) : Ordering :=
  match numericPlace? a, numericPlace? b with
  | some x, some y => x.compare y
  | _, _ => compareTexts a b

def givenPlace? : Json → Except Failure (Option ExtendedInt)
  | .text s => .ok (numericPlace? s)
  | .float x => .ok x.place?
  | .bool b => .ok (some (Binary64.placeOfInt (if b then 1 else 0)))
  | .int n =>
    match Binary64.ofInt n with
    | .infinite _ => .error .oversizedNumber
    | x => .ok x.place?
  | _ => .error .formlessValue

/-- Comparison of two values as they are given. Numbers need not be texts; all else has to be. -/
def compareGiven (a b : Json) : Except Failure Ordering := do
  match ← givenPlace? a, ← givenPlace? b with
  | some x, some y => return x.compare y
  | _, _ =>
    match a, b with
    | .text a, .text b => return compareTexts a b
    | _, _ => throw .formlessValue

inductive SortOrder
  | ascending
  | descending
  deriving DecidableEq, Repr

def SortOrder.name : SortOrder → String
  | ascending => "asc"
  | descending => "desc"

def SortOrder.ofText? (s : String) : Option SortOrder :=
  if s = "asc" then some ascending else if s = "desc" then some descending else none

inductive SortMode
  | asFetched
  | manual
  | random
  | field (id : String)
  deriving DecidableEq, Repr

/-- The mode that a binding's text names: absent, empty and `none` keep the items as they are. -/
def SortMode.ofText : Option String → SortMode
  | none => asFetched
  | some s =>
    if s = "" || s = "none" then asFetched
    else if s = "manual" then manual
    else if s = "random" then random
    else field s

def sortManually (items : List Item) : List Item :=
  items.mergeSort fun a b => a.manualOrder ≤ b.manualOrder

def Item.sortValue (field : String) (item : Item) : String := (item.values.lookup field).getD ""

/-- Items by the values of a field. Against the direction they are turned before and after, so that
    what compares equal keeps its order there too. -/
def sortByField (sorter : Sorter) (field : String) (order : SortOrder) (items : List Item) :
    List Item :=
  let cmp a b := compareValues (a.sortValue field) (b.sortValue field)
  match order with
  | .ascending => sorter.sort cmp items
  | .descending => (sorter.sort cmp items.reverse).reverse

def Sorter.sortItems (sorter : Sorter) (shuffle : List Item → List Item) (mode : SortMode)
    (order : SortOrder) (items : List Item) : List Item :=
  match mode with
  | .asFetched => items
  | .manual => sortManually items
  | .random => shuffle items
  | .field id => sortByField sorter id order items

def sortItems : (List Item → List Item) → SortMode → SortOrder → List Item → List Item :=
  Sorter.byRuns.sortItems

end PageLayers
