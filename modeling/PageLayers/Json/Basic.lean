import PageLayers.Entries
import PageLayers.Number.Binary64

/-!
JSON values. Whole numbers are exact and apart from floating-point ones; the members of an object
keep the order in which they were written.
-/

namespace PageLayers

inductive Json
  | null
  | bool (value : Bool)
  | int (value : Int)
  | float (value : Binary64)
  | text (value : String)
  | array (elements : List Json)
  | object (members : List (String × Json))
  deriving Repr, Inhabited

namespace Json

mutual
def same : Json → Json → Bool
  | null, null => true
  | bool a, bool b => a == b
  | int a, int b => a == b
  | float a, float b => a == b
  | text a, text b => a == b
  | array a, array b => sameElements a b
  | object a, object b => sameMembers a b
  | _, _ => false

def sameElements : List Json → List Json → Bool
  | [], [] => true
  | a :: as, b :: bs => same a b && sameElements as bs
  | _, _ => false

def sameMembers : List (String × Json) → List (String × Json) → Bool
  | [], [] => true
  | (k, a) :: as, (l, b) :: bs => k == l && same a b && sameMembers as bs
  | _, _ => false
end

mutual
theorem same_iff_eq : ∀ a b : Json, same a b = true ↔ a = b
  | null, b | bool _, b | int _, b | float _, b | text _, b => by cases b <;> simp [same]
  | array as, b => by cases b <;> simp [same, sameElements_iff_eq as]
  | object as, b => by cases b <;> simp [same, sameMembers_iff_eq as]

theorem sameElements_iff_eq : ∀ as bs : List Json, sameElements as bs = true ↔ as = bs
  | [], bs => by cases bs <;> simp [sameElements]
  | a :: as, bs => by
    cases bs <;> simp [sameElements, same_iff_eq a, sameElements_iff_eq as]

theorem sameMembers_iff_eq : ∀ as bs : List (String × Json), sameMembers as bs = true ↔ as = bs
  | [], bs => by cases bs <;> simp [sameMembers]
  | (k, a) :: as, bs => by
    cases bs <;> simp [sameMembers, same_iff_eq a, sameMembers_iff_eq as, Prod.ext_iff]
end

instance : DecidableEq Json := fun a b => decidable_of_iff _ (same_iff_eq a b)

/-- Whether the value counts as something: all do but null, false, zeros and what is empty. -/
def isTruthy : Json → Bool
  | null => false
  | bool b => b
  | int n => n ≠ 0
  | float x => !x.isZero
  | text s => s ≠ ""
  | array xs => !xs.isEmpty
  | object ms => !ms.isEmpty

mutual
/-- How many values lie within each other, the value itself included. -/
def depth : Json → Nat
  | array xs => elementsDepth xs + 1
  | object ms => membersDepth ms + 1
  | _ => 1

def elementsDepth : List Json → Nat
  | [] => 0
  | x :: xs => max (depth x) (elementsDepth xs)

def membersDepth : List (String × Json) → Nat
  | [] => 0
  | (_, value) :: ms => max (depth value) (membersDepth ms)
end

mutual
/-- The value with null in the place of every number that is not finite. -/
def finite : Json → Json
  | float .nan | float (.infinite _) => null
  | array xs => array (finiteElements xs)
  | object ms => object (finiteMembers ms)
  | j => j

def finiteElements : List Json → List Json
  | [] => []
  | x :: xs => finite x :: finiteElements xs

def finiteMembers : List (String × Json) → List (String × Json)
  | [] => []
  | (key, value) :: ms => (key, finite value) :: finiteMembers ms
end

def member? (key : String) : Json → Option Json
  | object ms => ms.lookup key
  | _ => none

end Json
end PageLayers
