import PageLayers.Document.Scalar

/-!
Checks of lists, maps and records. A field of a record has one or two keys; the first one that the
record has counts, and faults are reported under it. A field that is missing is reported under its
first key.
-/

namespace PageLayers.Document
variable {α : Type}

abbrev Members := List (String × Json)

def elementsFrom (check : Check α) : Nat → List Json → Checked (List α)
  | _, [] => .ok []
  | n, j :: js => List.cons <$> (check j).under (.index n) <*> elementsFrom check (n + 1) js

def listOf (check : Check α) : Check (List α)
  | .array js => elementsFrom check 0 js
  | _ => .fault .listType

def entriesOf (check : Check α) : Members → Checked (Entries α)
  | [] => .ok []
  | (k, j) :: ms =>
    (fun a rest => (k, a) :: rest) <$> (check j).under (.key k) <*> entriesOf check ms

def mapOf (check : Check α) : Check (Entries α)
  | .object ms => entriesOf check ms
  | _ => .fault .dictType

def find? (keys : List String) (ms : Members) : Option (String × Json) :=
  keys.findSome? fun k => (ms.lookup k).map fun j => (k, j)

def required (keys : List String) (check : Check α) (ms : Members) : Checked α :=
  match find? keys ms with
  | some (k, j) => (check j).under (.key k)
  | none => (Checked.fault .missing).under (.key (keys.headD ""))

def optional (keys : List String) (default : α) (check : Check α) (ms : Members) : Checked α :=
  match find? keys ms with
  | some (k, j) => (check j).under (.key k)
  | none => .ok default

/-- A field that may be absent or null. -/
def perhaps (keys : List String) (check : Check α) (ms : Members) : Checked (Option α) :=
  optional keys none (nullable check) ms

/-- A record; `otherwise` is the fault of a value that is no object. -/
def record (otherwise : FaultKind) (fields : Members → Checked α) : Check α
  | .object ms => fields ms
  | _ => .fault otherwise

def orNull (toJson : α → Json) : Option α → Json
  | some a => toJson a
  | none => .null

def ofNat (n : Nat) : Json := .int n

def ofList (toJson : α → Json) (xs : List α) : Json := .array (xs.map toJson)

def ofEntries (toJson : α → Json) (m : Entries α) :
    Json := .object (m.map fun (k, a) => (k, toJson a))

end PageLayers.Document
