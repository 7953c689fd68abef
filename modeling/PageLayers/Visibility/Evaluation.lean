import PageLayers.Calendar.IsoText
import PageLayers.Collection.Order
import PageLayers.Collection.References
import PageLayers.Visibility.Condition

/-!
Evaluation of visibility expressions. Each type of field has rules of its own; an operator that no
rule of the type knows holds, so that it hides nothing. Evaluation fails only where a stored list of
references cannot be read.
-/

namespace PageLayers.Visibility

def CountOperator.holds : CountOperator → Ordering → Bool
  | eq, o => o = .eq
  | lt, o => o = .lt
  | lte, o => o ≠ .gt
  | gt, o => o = .gt
  | gte, o => o ≠ .lt

/-- Whether a number of items compares with the condition's number as asked; without a number it is
    compared with zero, and no comparison with a number that is none holds. -/
def countCompares (count : Int) (c : Condition) : Bool :=
  let op := c.compareOperator.getD .eq
  match c.compareValue with
  | none => op.holds ((Binary64.placeOfInt count).compare (Binary64.placeOfInt 0))
  | some x =>
    match x.place? with
    | some place => op.holds ((Binary64.placeOfInt count).compare place)
    | none => false

def evalCount (op : Operator) (count : Int) (c : Condition) : Bool :=
  match op with
  | .hasItems => 0 < count
  | .hasNoItems => count = 0
  | .itemCount => countCompares count c
  | _ => true

def occursIn (part : List Char) : List Char → Bool
  | [] => part.isEmpty
  | c :: cs => part.isPrefixOf (c :: cs) || occursIn part cs

def containsText (whole part : String) :
    Bool := occursIn (Text.lower part).toList (Text.lower whole).toList

/-- A condition on a text; a missing text is empty. -/
def evalText (op : Operator) (raw expected : Option String) : Bool :=
  let actual := raw.getD ""
  let expected := expected.getD ""
  match op with
  | .is => actual = expected
  | .isNot => actual ≠ expected
  | .contains => containsText actual expected
  | .doesNotContain => !containsText actual expected
  | .isPresent | .isNotEmpty => Text.strip actual ≠ ""
  | .isEmpty => Text.strip actual = ""
  | _ => true

/-- A condition on a number. If one side is no number, equality falls back to texts and nothing else
    holds. -/
def evalNumber (op : Operator) (raw expected : Option String) : Bool :=
  match raw.bind numericPlace?, expected.bind numericPlace? with
  | some x, some y =>
    match op with
    | .is => x.compare y = .eq
    | .isNot => x.compare y ≠ .eq
    | .lt => x.compare y = .lt
    | .lte => x.compare y ≠ .gt
    | .gt => x.compare y = .gt
    | .gte => x.compare y ≠ .lt
    | _ => true
  | _, _ =>
    match op with
    | .is | .isNot => evalText op raw expected
    | _ => false

def spellOutZone (cs : List Char) : List Char :=
  if cs.getLast? = some 'Z' then cs.dropLast ++ "+00:00".toList else cs

def storedDay? (raw : Option String) : Option Calendar.Date :=
  raw.bind fun s => Calendar.readDay? (.ofList (spellOutZone (Text.strip s).toList))

/-- A condition on a day. If a day that it needs cannot be read it does not hold. -/
def evalDate (op : Operator) (raw : Option String) (c : Condition) : Bool :=
  match op with
  | .isEmpty => (storedDay? raw).isNone
  | .isNotEmpty => (storedDay? raw).isSome
  | _ =>
    match storedDay? raw, storedDay? c.value with
    | some actual, some expected =>
      match op with
      | .is => actual = expected
      | .isBefore => actual.before expected
      | .isAfter => expected.before actual
      | .isBetween =>
        match storedDay? c.value2 with
        | some upper => !actual.before expected && !upper.before actual
        | none => false
      | _ => true
    | _, _ => false

def saysYes (raw : Option String) : Bool :=
  ["true", "1", "yes", "on"].contains (Text.lower (Text.strip (raw.getD "")))

def evalBoolean (op : Operator) (raw expected : Option String) : Bool :=
  match op with
  | .is => saysYes raw == saysYes expected
  | _ => true

/-- A condition on a single reference or an asset; an empty one is missing. -/
def evalReference (room : Nat) (op : Operator) (raw : Option String) (c : Condition) :
    Except Failure Bool := do
  let selected ← References.decode (some .multiReference) c.value room
  let id := raw.getD ""
  return match op with
  | .exists_ => id ≠ ""
  | .doesNotExist => id = ""
  | .isOneOf => id ≠ "" && selected.contains id
  | .isNotOneOf => id = "" || !selected.contains id
  | _ => true

/-- A condition on a list of references; the lists count as sets, but their items are counted one by
    one. -/
def evalMultiReference (room : Nat) (op : Operator) (raw : Option String) (c : Condition) :
    Except Failure Bool := do
  let current ← References.decode (some .multiReference) raw room
  let selected ← References.decode (some .multiReference) c.value room
  return match op with
  | .isOneOf => current.any selected.contains
  | .isNotOneOf => !current.any selected.contains
  | .containsAllOf => selected.all current.contains
  | .containsExactly => selected.all current.contains && current.all selected.contains
  | .itemCount | .hasItems | .hasNoItems => evalCount op current.length c
  | _ => true

def Condition.fieldValue (c : Condition) (ctx : Context) : Option String :=
  match c.fieldId with
  | none => none
  | some id => if id = "" then none else (ctx.itemValues.getD []).lookup id

def Condition.layerCount (c : Condition) (ctx : Context) : Int :=
  (ctx.counts.lookup (c.collectionLayerId.getD "")).getD 0

def evalField (room : Nat) (op : Operator) (raw : Option String) (c : Condition) :
    Except Failure Bool :=
  match c.fieldType with
  | some .multiReference => evalMultiReference room op raw c
  | some .reference | some .image | some .audio | some .video | some .document =>
    evalReference room op raw c
  | some .number => .ok (evalNumber op raw c.value)
  | some .date => .ok (evalDate op raw c)
  | some .boolean => .ok (evalBoolean op raw c.value)
  | _ => .ok (evalText op raw c.value)

/-- Whether a condition holds. One whose operator is unknown does. -/
def Condition.eval (c : Condition) (ctx : Context) : Except Failure Bool :=
  match Operator.ofText? c.operator with
  | none => .ok true
  | some op =>
    match c.source with
    | .pageCollection => .ok (evalCount op (c.layerCount ctx) c)
    | .collectionField => evalField ctx.room op (c.fieldValue ctx) c

def anyHolds (ctx : Context) : List Condition → Except Failure Bool
  | [] => .ok false
  | c :: cs => do if ← c.eval ctx then return true else anyHolds ctx cs

def Group.eval (g : Group) (ctx : Context) : Except Failure Bool :=
  if g.conditions.isEmpty then .ok true else anyHolds ctx g.conditions

def allHold (ctx : Context) : List Group → Except Failure Bool
  | [] => .ok true
  | g :: gs => do if ← g.eval ctx then allHold ctx gs else return false

def Expression.eval (e : Expression) (ctx : Context) : Except Failure Bool := allHold ctx e.groups

abbrev Evaluator := Expression → Context → Except Failure Bool

/-- The evaluator where values and numbers are given that may be faulty. The values count where no
    others are in scope, and faults count only where an expression is evaluated on them. -/
def Evaluator.given (evaluator : Evaluator) (values : Document.Checked (Option Values))
    (counts : Document.Checked (Entries Int)) : Evaluator := fun x ctx =>
  let scope := if ctx.itemValues.isSome then .ok ctx.itemValues else values
  match (fun itemValues counts => { ctx with itemValues, counts }) <$> scope <*> counts with
  | .ok ctx => evaluator x ctx
  | .faulty faults => .error (.faulty faults)

end PageLayers.Visibility
