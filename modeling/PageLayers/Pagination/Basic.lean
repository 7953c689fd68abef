import PageLayers.Entries
import PageLayers.Number.Binary64

/-!
Pagination of collection layers: how a binding is paged, which page is asked for, and what is
recorded about the page that is shown. The number of pages is the quotient of items and page size,
taken as a double and then rounded up.
-/

namespace PageLayers.Pagination

/-- What happens at the end of a page. Only `pages` divides the items; `loadMore` leaves that to the
    browser. -/
inductive Mode
  | pages
  | loadMore
  deriving DecidableEq, Repr

def Mode.name : Mode → String
  | pages => "pages"
  | loadMore => "load_more"

def Mode.ofText? (s : String) : Option Mode := [pages, loadMore].find? (·.name = s)

structure Config where
  enabled : Bool := false
  mode : Mode := .pages
  itemsPerPage : Option Nat := none
  deriving DecidableEq, Repr

def Config.isPaged (c : Config) : Bool := c.enabled && c.mode = .pages

structure Meta where
  layerId : String
  collectionId : String
  currentPage : Int
  totalPages : Int
  totalItems : Int
  itemsPerPage : Int
  deriving DecidableEq, Repr

def Meta.isFirstPage (m : Meta) : Bool := m.currentPage ≤ 1

def Meta.isLastPage (m : Meta) : Bool := m.totalPages ≤ m.currentPage

/-- The text that tells the current page. Any number is written here, also one of more than
    `Number.maxIntegerDigits` digits; what a resolution records has no such number. -/
def Meta.infoText (m : Meta) : String :=
  "Page " ++ toString m.currentPage ++ " of " ++ toString m.totalPages

structure Request where
  pageNumbers : Entries Nat := []
  defaultPage : Option Nat := none
  deriving DecidableEq, Repr

def Request.pageFor (r : Request) (layerId : String) : Nat :=
  (r.pageNumbers.lookup layerId).getD (r.defaultPage.getD 1)

def pageCount (total perPage : Nat) :
    Nat := Binary64.ceilUnits (Binary64.unitsOfRatio total perPage)

/-- The same for what a data source says, which may be less than nothing. -/
def signedPageCount (total : Int) (perPage : Nat) : Int :=
  if total < 0 then -(Binary64.unitsOfRatio total.natAbs perPage / Binary64.unitsPerOne : Nat)
  else pageCount total.natAbs perPage

end PageLayers.Pagination
