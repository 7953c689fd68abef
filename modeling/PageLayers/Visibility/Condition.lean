import PageLayers.Collection.Item
import PageLayers.Json.Reader

/-!
Visibility expressions. The same expressions hide layers and filter the items of a collection. An
expression holds if each of its groups holds, and a group holds if one of its conditions does; a
group without conditions holds.
-/

namespace PageLayers.Visibility

/-- What a condition tests: a field of the item in scope, or the number of items that a collection
    layer of the page shows. -/
inductive ConditionSource
  | collectionField
  | pageCollection
  deriving DecidableEq, Repr

def ConditionSource.name : ConditionSource → String
  | collectionField => "collection_field"
  | pageCollection => "page_collection"

def ConditionSource.ofText? (s : String) : Option ConditionSource :=
  [collectionField, pageCollection].find? (·.name = s)

inductive Operator
  | is
  | isNot
  | contains
  | doesNotContain
  | isPresent
  | isEmpty
  | isNotEmpty
  | lt
  | lte
  | gt
  | gte
  | isBefore
  | isAfter
  | isBetween
  | isOneOf
  | isNotOneOf
  | exists_
  | doesNotExist
  | containsAllOf
  | containsExactly
  | itemCount
  | hasItems
  | hasNoItems
  deriving DecidableEq, Repr

namespace Operator

def all : List Operator :=
  [is, isNot, contains, doesNotContain, isPresent, isEmpty, isNotEmpty, lt, lte, gt, gte, isBefore,
    isAfter,
    isBetween, isOneOf, isNotOneOf, exists_, doesNotExist, containsAllOf, containsExactly,
      itemCount, hasItems,
    hasNoItems]

def name : Operator → String
  | is => "is"
  | isNot => "is_not"
  | contains => "contains"
  | doesNotContain => "does_not_contain"
  | isPresent => "is_present"
  | isEmpty => "is_empty"
  | isNotEmpty => "is_not_empty"
  | lt => "lt"
  | lte => "lte"
  | gt => "gt"
  | gte => "gte"
  | isBefore => "is_before"
  | isAfter => "is_after"
  | isBetween => "is_between"
  | isOneOf => "is_one_of"
  | isNotOneOf => "is_not_one_of"
  | exists_ => "exists"
  | doesNotExist => "does_not_exist"
  | containsAllOf => "contains_all_of"
  | containsExactly => "contains_exactly"
  | itemCount => "item_count"
  | hasItems => "has_items"
  | hasNoItems => "has_no_items"

def ofText? (s : String) : Option Operator := all.find? (·.name = s)

end Operator

inductive CountOperator
  | eq
  | lt
  | lte
  | gt
  | gte
  deriving DecidableEq, Repr

def CountOperator.name : CountOperator → String
  | eq => "eq"
  | lt => "lt"
  | lte => "lte"
  | gt => "gt"
  | gte => "gte"

def CountOperator.ofText? (s : String) : Option CountOperator :=
  [eq, lt, lte, gt, gte].find? (·.name = s)

/-- A single comparison. The operator is kept as written, since a text that names none is allowed.
    -/
structure Condition where
  id : Option String := none
  source : ConditionSource := .collectionField
  fieldId : Option String := none
  fieldType : Option FieldType := none
  referenceCollectionId : Option String := none
  operator : String
  value : Option String := none
  value2 : Option String := none
  collectionLayerId : Option String := none
  compareOperator : Option CountOperator := none
  compareValue : Option Binary64 := none
  deriving DecidableEq, Repr

structure Group where
  id : Option String := none
  conditions : List Condition := []
  deriving DecidableEq, Repr

structure Expression where
  groups : List Group := []
  deriving DecidableEq, Repr

def Expression.isEmpty (e : Expression) : Bool := e.groups.isEmpty

/-- What an expression is evaluated against: the values of the item in scope, the number of items of
    each collection layer, and the room for lists and objects within each other in the stored lists
    of references that are read. -/
structure Context where
  itemValues : Option Values := none
  counts : Entries Int := []
  room : Nat := Json.depthLimit
  deriving DecidableEq, Repr

end PageLayers.Visibility
