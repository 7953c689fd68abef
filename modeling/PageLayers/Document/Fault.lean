/-!
Checking a document. A check yields a value or every fault that it finds, each with the way to the
place where it was found. Checks of several parts are put together so that the faults of all parts
are kept.
-/

namespace PageLayers.Document

inductive FaultKind
  | missing
  | stringType
  | intType
  | intParsing
  | intTooLong
  | intFromFloat
  | finiteNumber
  | floatType
  | floatParsing
  | boolType
  | boolParsing
  | listType
  | dictType
  | enumeration
  | literal
  | greaterThanEqual
  | greaterThan
  | modelType
  | modelAttributesType
  | unionTagNotFound
  | unionTagInvalid
  | tooDeep
  deriving DecidableEq, Repr

def FaultKind.name : FaultKind → String
  | missing => "missing"
  | stringType => "string_type"
  | intType => "int_type"
  | intParsing => "int_parsing"
  | intTooLong => "int_parsing_size"
  | intFromFloat => "int_from_float"
  | finiteNumber => "finite_number"
  | floatType => "float_type"
  | floatParsing => "float_parsing"
  | boolType => "bool_type"
  | boolParsing => "bool_parsing"
  | listType => "list_type"
  | dictType => "dict_type"
  | enumeration => "enum"
  | literal => "literal_error"
  | greaterThanEqual => "greater_than_equal"
  | greaterThan => "greater_than"
  | modelType => "model_type"
  | modelAttributesType => "model_attributes_type"
  | unionTagNotFound => "union_tag_not_found"
  | unionTagInvalid => "union_tag_invalid"
  | tooDeep => "recursion_depth_exceeded"

inductive Step
  | key (name : String)
  | index (n : Nat)
  deriving DecidableEq, Repr

def Step.text : Step → String
  | key name => name
  | index n => toString n

structure Fault where
  path : List Step
  kind : FaultKind
  deriving DecidableEq, Repr

def Fault.location (f : Fault) : String := ".".intercalate (f.path.map Step.text)

/-- Whether a fault comes before another in a report: by location, then by kind. -/
def Fault.before (a b : Fault) : Bool :=
  a.location < b.location || (a.location = b.location && a.kind.name ≤ b.kind.name)

def report (faults : List Fault) : List Fault := faults.mergeSort Fault.before

inductive Checked (α : Type) : Type
  | ok (value : α)
  | faulty (faults : List Fault)
  deriving DecidableEq, Repr

namespace Checked
variable {α β : Type}

def fault (kind : FaultKind) : Checked α := faulty [⟨[], kind⟩]

def under (step : Step) : Checked α → Checked α
  | ok a => ok a
  | faulty fs => faulty (fs.map fun f => { f with path := step :: f.path })

def apply : Checked (α → β) → Checked α → Checked β
  | ok f, ok a => ok (f a)
  | ok _, faulty fs => faulty fs
  | faulty fs, ok _ => faulty fs
  | faulty fs, faulty gs => faulty (fs ++ gs)

def andThen (c : Checked α) (next : α → Checked β) : Checked β :=
  match c with
  | ok a => next a
  | faulty fs => faulty fs

instance : Applicative Checked where
  pure := ok
  seq f a := apply f (a ())

@[simp] theorem under_ok (step : Step) (a : α) : (ok a).under step = ok a := rfl

@[simp] theorem pure_eq (a : α) : (pure a : Checked α) = ok a := rfl

@[simp] theorem seq_eq (f : Checked (α → β)) (a : Checked α) : (f <*> a) = apply f a := rfl

@[simp] theorem map_eq (f : α → β) (a : Checked α) : (f <$> a) = apply (ok f) a := rfl

@[simp] theorem apply_ok (f : α → β) (a : α) : apply (ok f) (ok a) = ok (f a) := rfl

end Checked
end PageLayers.Document
