import PageLayers.Proofs.ItemOrder
import PageLayers.Proofs.Selection

/-!
The operators of conditions. What a condition tests decides which operators it supports, how they
complement each other, and which of them order numbers and days. An operator that is not supported
hides nothing, but where the values of a number or a day cannot be read it does.
-/

namespace PageLayers

namespace Calendar.Date

def compare (a b : Date) : Ordering := if a.before b then .lt else if b.before a then .gt else .eq

theorem not_before_of_before {a b : Date} (less : a.before b = true) : b.before a = false := by
  simp only [before, Bool.or_eq_true, Bool.and_eq_true, decide_eq_true_eq, Bool.or_eq_false_iff,
    Bool.and_eq_false_iff, decide_eq_false_iff_not] at less ⊢
  omega

theorem compare_lt_iff {a b : Date} : compare a b = .lt ↔ a.before b = true := by
  unfold compare
  split_ifs <;> simp_all

theorem compare_gt_iff {a b : Date} : compare a b = .gt ↔ b.before a = true := by
  unfold compare
  split_ifs with less
  · simp [not_before_of_before less]
  · simp_all
  · simp_all

theorem compare_eq_iff {a b : Date} : compare a b = .eq ↔ a = b := by
  obtain ⟨year, month, day⟩ := a
  obtain ⟨year', month', day'⟩ := b
  unfold compare
  split_ifs with less more <;>
    simp only [before, Bool.or_eq_true, Bool.and_eq_true, decide_eq_true_eq, false_iff, true_iff,
      mk.injEq] at *
  all_goals omega

end Calendar.Date

namespace Visibility

/-- The kinds of fields that conditions tell apart. A field without a type is tested as a text, and
    an asset as a reference. -/
inductive FieldKind
  | text
  | number
  | boolean
  | date
  | reference
  | multiReference
  deriving DecidableEq, Repr

namespace FieldKind

def ofType : Option FieldType → FieldKind
  | none | some .text | some .email | some .phone | some .richText => text
  | some .number => number
  | some .boolean => boolean
  | some .date => date
  | some .reference | some .image | some .audio | some .video | some .document => reference
  | some .multiReference => multiReference

def operators : FieldKind → List Operator
  | text => [.is, .isNot, .contains, .doesNotContain, .isPresent, .isEmpty, .isNotEmpty]
  | number => [.is, .isNot, .lt, .lte, .gt, .gte]
  | boolean => [.is]
  | date => [.is, .isBefore, .isAfter, .isBetween, .isEmpty, .isNotEmpty]
  | reference => [.isOneOf, .isNotOneOf, .exists_, .doesNotExist]
  | multiReference =>
    [.isOneOf, .isNotOneOf, .containsAllOf, .containsExactly, .itemCount, .hasItems, .hasNoItems]

def complements : FieldKind → List (Operator × Operator)
  | text => [(.is, .isNot), (.contains, .doesNotContain), (.isPresent, .isEmpty)]
  | number => [(.is, .isNot)]
  | boolean => []
  | date => [(.isEmpty, .isNotEmpty)]
  | reference => [(.exists_, .doesNotExist), (.isOneOf, .isNotOneOf)]
  | multiReference => [(.isOneOf, .isNotOneOf), (.hasItems, .hasNoItems)]

end FieldKind

namespace Condition

def supported (c : Condition) : List Operator :=
  match c.source with
  | .pageCollection => [.itemCount, .hasItems, .hasNoItems]
  | .collectionField => (FieldKind.ofType c.fieldType).operators

def referenceLists (c : Condition) (ctx : Context) : List (Option String) :=
  match FieldKind.ofType c.fieldType with
  | .reference => [c.value]
  | .multiReference => [c.fieldValue ctx, c.value]
  | _ => []

/-- Whether the lists of references that a condition reads can be decoded. -/
def Decodes (c : Condition) (ctx : Context) : Prop :=
  ∀ raw ∈ c.referenceLists ctx, (References.decode (some .multiReference) raw ctx.room).isOk = true

instance (c : Condition) (ctx : Context) : Decidable (c.Decodes ctx) :=
  inferInstanceAs (Decidable (∀ raw ∈ c.referenceLists ctx, _))

/-- Whether the values that a condition on a field reads are what the field asks for: two numbers,
    two days, or lists of references. -/
def Readable (c : Condition) (ctx : Context) : Prop :=
  match FieldKind.ofType c.fieldType with
  | .number =>
    ((c.fieldValue ctx).bind numericPlace?).isSome = true ∧
    (c.value.bind numericPlace?).isSome = true
  | .date => (storedDay? (c.fieldValue ctx)).isSome = true ∧ (storedDay? c.value).isSome = true
  | _ => c.Decodes ctx

def ask (c : Condition) (op : Operator) (ctx : Context) : Except Failure Bool :=
  { c with operator := op.name }.eval ctx

/-- Both operators answer, and one of them holds exactly if the other does not. -/
def Opposed (c : Condition) (ctx : Context) (op op' : Operator) : Prop :=
  ∃ holds, c.ask op ctx = .ok holds ∧ c.ask op' ctx = .ok (!holds)

/-- All of the operators answer, and exactly one of them holds. -/
def OneHolds (c : Condition) (ctx : Context) (ops : List Operator) : Prop :=
  ∃ op ∈ ops, c.ask op ctx = .ok true ∧ ∀ other ∈ ops, other ≠ op → c.ask other ctx = .ok false

structure ComparesAs (c : Condition) (ctx : Context) (o : Ordering) : Prop where
  one : c.OneHolds ctx [.lt, .is, .gt]
  notMore : c.Opposed ctx .lte .gt
  notLess : c.Opposed ctx .gte .lt
  less : c.ask .lt ctx = .ok (o = .lt)
  same : c.ask .is ctx = .ok (o = .eq)
  more : c.ask .gt ctx = .ok (o = .gt)

end Condition

theorem Operator.ofText?_name (op : Operator) : ofText? op.name = some op := by cases op <;> decide

theorem Operator.name_of_ofText? {s : String} {op : Operator} (known : ofText? s = some op) :
    op.name = s := by
  simpa using List.find?_some known

section field
variable {c : Condition} {ctx : Context}

theorem evalField_eq (room : Nat) (op : Operator) (raw : Option String) (c : Condition) :
    evalField room op raw c =
      match FieldKind.ofType c.fieldType with
      | .text => .ok (evalText op raw c.value)
      | .number => .ok (evalNumber op raw c.value)
      | .boolean => .ok (evalBoolean op raw c.value)
      | .date => .ok (evalDate op raw c)
      | .reference => evalReference room op raw c
      | .multiReference => evalMultiReference room op raw c := by
  unfold evalField
  cases c.fieldType with
  | none => rfl
  | some t => cases t <;> rfl

theorem Condition.ask_field (source : c.source = .collectionField) (op : Operator) :
    c.ask op ctx = evalField ctx.room op (c.fieldValue ctx) c := by
  rw [ask, eval]
  simp only [Operator.ofText?_name, source]
  rfl

theorem Condition.ask_count (source : c.source = .pageCollection) (op : Operator) :
    c.ask op ctx = .ok (evalCount op (c.layerCount ctx) c) := by
  rw [ask, eval]
  simp only [Operator.ofText?_name, source]
  rfl

end field

section complements
variable {op op' : Operator} {raw expected : Option String}

theorem evalText_complements (listed : (op, op') ∈ FieldKind.text.complements) :
    evalText op' raw expected = !evalText op raw expected := by
  simp only [FieldKind.complements, List.mem_cons, List.not_mem_nil, or_false, Prod.mk.injEq]
    at listed
  rcases listed with ⟨rfl, rfl⟩ | ⟨rfl, rfl⟩ | ⟨rfl, rfl⟩ <;> simp [evalText]

theorem evalNumber_isNot : evalNumber .isNot raw expected = !evalNumber .is raw expected := by
  unfold evalNumber
  split
  · simp
  · exact evalText_complements (by decide)

theorem evalDate_isNotEmpty (c : Condition) : evalDate .isNotEmpty raw c =
    !evalDate .isEmpty raw c := by
  simp [evalDate]

theorem evalCount_hasNoItems {count : Int} (natural : 0 ≤ count) (c : Condition) :
    evalCount .hasNoItems count c = !evalCount .hasItems count c := by
  simp only [evalCount, ← decide_not, decide_eq_decide]
  omega

theorem evalReference_complements {room : Nat} {c : Condition}
    (decodes : (References.decode (some .multiReference) c.value room).isOk = true)
    (listed : (op, op') ∈ FieldKind.reference.complements) :
    ∃ holds, evalReference room op raw c = .ok holds ∧
      evalReference room op' raw c = .ok (!holds) := by
  obtain ⟨selected, decoded⟩ := isOk_iff.mp decodes
  simp only [FieldKind.complements, List.mem_cons, List.not_mem_nil, or_false, Prod.mk.injEq]
    at listed
  unfold evalReference
  rw [decoded]
  rcases listed with ⟨rfl, rfl⟩ | ⟨rfl, rfl⟩ <;> exact ⟨_, rfl, congrArg Except.ok (by simp)⟩

theorem evalMultiReference_complements {room : Nat} {c : Condition}
    (current : (References.decode (some .multiReference) raw room).isOk = true)
    (selected : (References.decode (some .multiReference) c.value room).isOk = true)
    (listed : (op, op') ∈ FieldKind.multiReference.complements) :
    ∃ holds, evalMultiReference room op raw c = .ok holds ∧
      evalMultiReference room op' raw c = .ok (!holds) := by
  obtain ⟨ids, decoded⟩ := isOk_iff.mp current
  obtain ⟨chosen, decoded'⟩ := isOk_iff.mp selected
  simp only [FieldKind.complements, List.mem_cons, List.not_mem_nil, or_false, Prod.mk.injEq]
    at listed
  unfold evalMultiReference
  rw [decoded, decoded']
  rcases listed with ⟨rfl, rfl⟩ | ⟨rfl, rfl⟩
  · exact ⟨_, rfl, rfl⟩
  · exact ⟨_, rfl, congrArg Except.ok (evalCount_hasNoItems (Int.natCast_nonneg _) c)⟩

end complements

section conditions
variable {c : Condition} {ctx : Context}

theorem Condition.opposed_of_decodes {op op' : Operator} (source : c.source = .collectionField)
    (decodes : c.Decodes ctx)
    (listed : (op, op') ∈ (FieldKind.ofType c.fieldType).complements) : c.Opposed ctx op op' := by
  unfold Opposed
  unfold Decodes referenceLists at decodes
  rw [ask_field source, ask_field source, evalField_eq, evalField_eq]
  cases kind : FieldKind.ofType c.fieldType with
  | text =>
    rw [kind] at listed
    exact ⟨_, rfl, congrArg Except.ok (evalText_complements listed)⟩
  | number =>
    obtain ⟨rfl, rfl⟩ : op = .is ∧ op' = .isNot := by
      simpa [kind, FieldKind.complements] using listed
    exact ⟨_, rfl, congrArg Except.ok evalNumber_isNot⟩
  | boolean => simp [kind, FieldKind.complements] at listed
  | date =>
    obtain ⟨rfl, rfl⟩ : op = .isEmpty ∧ op' = .isNotEmpty := by
      simpa [kind, FieldKind.complements] using listed
    exact ⟨_, rfl, congrArg Except.ok (evalDate_isNotEmpty c)⟩
  | reference =>
    rw [kind] at listed decodes
    exact evalReference_complements (decodes _ (by simp)) listed
  | multiReference =>
    rw [kind] at listed decodes
    exact evalMultiReference_complements (decodes _ (by simp)) (decodes _ (by simp)) listed

theorem Condition.opposed_of_count (source : c.source = .pageCollection)
    (natural : 0 ≤ c.layerCount ctx) : c.Opposed ctx .hasItems .hasNoItems :=
  ⟨_, ask_count source _,
    (ask_count source _).trans (congrArg Except.ok (evalCount_hasNoItems natural c))⟩

theorem Condition.oneHolds_of_answers {less same more : Operator} {o : Ordering}
    (lt : c.ask less ctx = .ok (o = .lt))
    (eq : c.ask same ctx = .ok (o = .eq)) (gt : c.ask more ctx = .ok (o = .gt)) :
    c.OneHolds ctx [less, same, more] := by
  cases o with
  | lt => exact ⟨less, by simp, by simpa using lt, by simp [eq, gt]⟩
  | eq => exact ⟨same, by simp, by simpa using eq, by simp [lt, gt]⟩
  | gt => exact ⟨more, by simp, by simpa using gt, by simp [lt, eq]⟩

theorem Condition.comparesAs_of_numbers {actual expected : String}
    (source : c.source = .collectionField)
    (numeric : c.fieldType = some .number) (stored : c.fieldValue ctx = some actual)
    (asked : c.value = some expected) (number : (numericPlace? actual).isSome = true)
    (number' : (numericPlace? expected).isSome = true) :
    c.ComparesAs ctx (compareValues actual expected) := by
  obtain ⟨x, place⟩ := Option.isSome_iff_exists.mp number
  obtain ⟨y, place'⟩ := Option.isSome_iff_exists.mp number'
  have answers : ∀ op, c.ask op ctx = .ok (evalNumber op (some actual) (some expected)) := by
    intro op
    rw [ask_field source, evalField_eq, numeric, stored, asked]
    rfl
  rw [compareValues_of_numbers place place']
  have less : c.ask .lt ctx = .ok (x.compare y = .lt) := by
    simp [answers, evalNumber, place, place']
  have same : c.ask .is ctx = .ok (x.compare y = .eq) := by
    simp [answers, evalNumber, place, place']
  have more : c.ask .gt ctx = .ok (x.compare y = .gt) := by
    simp [answers, evalNumber, place, place']
  exact {
    one := oneHolds_of_answers less same more
    notMore := ⟨_, answers _, by simp [answers, evalNumber, place, place']⟩
    notLess := ⟨_, answers _, by simp [answers, evalNumber, place, place']⟩
    less, same, more }

theorem Condition.ask_date (source : c.source = .collectionField) (dated : c.fieldType = some .date)
    (op : Operator) : c.ask op ctx = .ok (evalDate op (c.fieldValue ctx) c) := by
  rw [ask_field source, evalField_eq, dated]
  rfl

theorem Condition.oneHolds_of_days (source : c.source = .collectionField)
    (dated : c.fieldType = some .date) (day : (storedDay? (c.fieldValue ctx)).isSome = true)
    (day' : (storedDay? c.value).isSome = true) : c.OneHolds ctx [.isBefore, .is, .isAfter] := by
  obtain ⟨actual, read⟩ := Option.isSome_iff_exists.mp day
  obtain ⟨expected, read'⟩ := Option.isSome_iff_exists.mp day'
  refine oneHolds_of_answers (o := actual.compare expected) ?_ ?_ ?_ <;>
    rw [ask_date source dated] <;>
    simp [evalDate, read, read', Calendar.Date.compare_lt_iff, Calendar.Date.compare_eq_iff,
      Calendar.Date.compare_gt_iff]

theorem Condition.isBetween_iff (source : c.source = .collectionField)
    (dated : c.fieldType = some .date) (day : (storedDay? (c.fieldValue ctx)).isSome = true)
    (day' : (storedDay? c.value).isSome = true) (day'' : (storedDay? c.value2).isSome = true) :
    ∃ before after, c.ask .isBefore ctx = .ok before ∧
      { c with value := c.value2 }.ask .isAfter ctx = .ok after ∧
      c.ask .isBetween ctx = .ok (!before && !after) := by
  obtain ⟨actual, read⟩ := Option.isSome_iff_exists.mp day
  obtain ⟨expected, read'⟩ := Option.isSome_iff_exists.mp day'
  obtain ⟨upper, read''⟩ := Option.isSome_iff_exists.mp day''
  have within : { c with value := c.value2 }.fieldValue ctx = c.fieldValue ctx := rfl
  refine ⟨actual.before expected, upper.before actual, ?_, ?_, ?_⟩
  · rw [ask_date source dated]
    simp [evalDate, read, read']
  · rw [ask_date (c := { c with value := c.value2 }) source dated, within]
    simp [evalDate, read, read'']
  · rw [ask_date source dated]
    simp [evalDate, read, read', read'']

/-- The pairs of operators that complement each other are opposed: those of a field wherever its
    references can be decoded, whatever else is stored, and those of a collection layer on a natural
    number of items. On two numbers and on two days the ordering operators hold one at a time and
    say how these compare, and a day is between two others if it is neither before the one nor after
    the other. -/
theorem operators_are_opposed_and_ordered (c : Condition) (ctx : Context) :
    (c.source = .pageCollection → 0 ≤ c.layerCount ctx → c.Opposed ctx .hasItems .hasNoItems) ∧
      (c.source = .collectionField →
        (c.Decodes ctx → ∀ p ∈ (FieldKind.ofType c.fieldType).complements, c.Opposed ctx p.1 p.2) ∧
        (c.fieldType = some .number → ∀ actual expected, c.fieldValue ctx = some actual →
          c.value = some expected →
          (numericPlace? actual).isSome = true → (numericPlace? expected).isSome = true →
          c.ComparesAs ctx (compareValues actual expected)) ∧
        (c.fieldType = some .date → (storedDay? (c.fieldValue ctx)).isSome = true →
          (storedDay? c.value).isSome = true →
          c.OneHolds ctx [.isBefore, .is, .isAfter] ∧
          ((storedDay? c.value2).isSome = true → ∃ before after,
            c.ask .isBefore ctx = .ok before ∧ { c with value := c.value2 }.ask .isAfter ctx =
              .ok after ∧
            c.ask .isBetween ctx = .ok (!before && !after)))) := by
  refine ⟨Condition.opposed_of_count, fun source => ⟨?_, ?_, ?_⟩⟩
  · intro decodes p listed
    exact Condition.opposed_of_decodes source decodes listed
  · intro numeric actual expected stored asked number number'
    exact Condition.comparesAs_of_numbers source numeric stored asked number number'
  · intro dated day day'
    exact ⟨Condition.oneHolds_of_days source dated day day',
      Condition.isBetween_iff source dated day day'⟩

end conditions

def fieldTest (type : FieldType) (operator value : String) : Condition :=
  { fieldId := some "field", fieldType := some type, operator, value := some value }

def fieldHolds (value : String) : Context := { itemValues := some [("field", value)] }

theorem tests_of_each_kind_are_opposed_and_ordered :
    { operator := "has_items", source := .pageCollection : Condition }.Opposed
      {} .hasItems .hasNoItems ∧
      (fieldTest .multiReference "is_one_of" "[\"b\"]").Opposed (fieldHolds "[\"a\",\"b\"]")
        .isOneOf .isNotOneOf ∧
      (fieldTest .number "lt" "10").ComparesAs (fieldHolds "9") (compareValues "9" "10") ∧
      (fieldTest .date "is" "2024-02-01").OneHolds (fieldHolds "2024-02-29")
        [.isBefore, .is, .isAfter] := by
  have list := (operators_are_opposed_and_ordered (fieldTest .multiReference "is_one_of" "[\"b\"]")
    (fieldHolds "[\"a\",\"b\"]")).2 rfl
  have number :=
    (operators_are_opposed_and_ordered (fieldTest .number "lt" "10") (fieldHolds "9")).2 rfl
  have day :=
    (operators_are_opposed_and_ordered (fieldTest .date "is" "2024-02-01")
      (fieldHolds "2024-02-29")).2 rfl
  exact ⟨(operators_are_opposed_and_ordered _ _).1 rfl (by decide),
    list.1 (by decide +kernel) (.isOneOf, .isNotOneOf) (by decide),
    number.2.1 rfl "9" "10" rfl rfl (by decide +kernel) (by decide +kernel),
    (day.2.2 rfl (by decide +kernel) (by decide +kernel)).1⟩

section inapplicable
variable {op : Operator} {raw expected : Option String} {c : Condition} {ctx : Context}

theorem evalText_inapplicable (inapplicable : op ∉ FieldKind.text.operators) :
    evalText op raw expected = true := by
  cases op <;> first | exact absurd (by decide) inapplicable | rfl

theorem evalBoolean_inapplicable (inapplicable : op ∉ FieldKind.boolean.operators) :
    evalBoolean op raw expected = true := by
  cases op <;> first | exact absurd (by decide) inapplicable | rfl

theorem evalNumber_inapplicable (inapplicable : op ∉ FieldKind.number.operators) :
    evalNumber op raw expected =
      ((raw.bind numericPlace?).isSome && (expected.bind numericPlace?).isSome) := by
  unfold evalNumber
  -- A missing number is answered before it is known whether the operator is one on numbers; so is a
  -- missing day below.
  cases raw.bind numericPlace? <;> cases expected.bind numericPlace? <;>
    cases op <;> first | exact absurd (by decide) inapplicable | rfl

theorem evalDate_inapplicable (inapplicable : op ∉ FieldKind.date.operators) :
    evalDate op raw c = ((storedDay? raw).isSome && (storedDay? c.value).isSome) := by
  unfold evalDate
  cases storedDay? raw <;> cases storedDay? c.value <;>
    cases op <;> first | exact absurd (by decide) inapplicable | rfl

theorem evalCount_inapplicable {count : Int}
    (inapplicable : op ∉ [Operator.itemCount, .hasItems, .hasNoItems]) :
    evalCount op count c = true := by
  cases op <;> first | exact absurd (by decide) inapplicable | rfl

theorem evalReference_inapplicable {room : Nat}
    (inapplicable : op ∉ FieldKind.reference.operators) :
    evalReference room op raw c = (References.decode (some .multiReference) c.value room).map
      fun _ => true := by
  unfold evalReference
  -- The list is decoded whatever the operator, so that only this can fail.
  cases References.decode (some .multiReference) c.value room with
  | error cause => rfl
  | ok selected => cases op <;> first | exact absurd (by decide) inapplicable | rfl

theorem evalMultiReference_inapplicable {room : Nat}
    (inapplicable : op ∉ FieldKind.multiReference.operators) :
    evalMultiReference room op raw c = (do
      let _ ← References.decode (some .multiReference) raw room
      let _ ← References.decode (some .multiReference) c.value room
      return true) := by
  unfold evalMultiReference
  cases References.decode (some .multiReference) raw room with
  | error cause => rfl
  | ok current =>
    cases References.decode (some .multiReference) c.value room with
    | error cause => rfl
    | ok selected => cases op <;> first | exact absurd (by decide) inapplicable | rfl

theorem Condition.eval_of_known (known : Operator.ofText? c.operator = some op) :
    c.eval ctx = c.ask op ctx := by
  unfold ask
  rw [Operator.name_of_ofText? known]

theorem Condition.ask_of_readable (source : c.source = .collectionField)
    (inapplicable : op ∉ (FieldKind.ofType c.fieldType).operators) (readable : c.Readable ctx) :
    c.ask op ctx = .ok true := by
  rw [ask_field source, evalField_eq]
  unfold Readable Decodes referenceLists at readable
  cases kind : FieldKind.ofType c.fieldType <;> rw [kind] at inapplicable readable
  case text => simp only [evalText_inapplicable inapplicable]
  case number => simp only [evalNumber_inapplicable inapplicable, readable, Bool.and_self]
  case boolean => simp only [evalBoolean_inapplicable inapplicable]
  case date => simp only [evalDate_inapplicable inapplicable, readable, Bool.and_self]
  case reference =>
    obtain ⟨selected, decoded⟩ := isOk_iff.mp (readable c.value (by simp))
    simp only [evalReference_inapplicable inapplicable, decoded]
    rfl
  case multiReference =>
    obtain ⟨current, decoded⟩ := isOk_iff.mp (readable (c.fieldValue ctx) (by simp))
    obtain ⟨selected, decoded'⟩ := isOk_iff.mp (readable c.value (by simp))
    simp only [evalMultiReference_inapplicable inapplicable, decoded, decoded']
    rfl

theorem Condition.ask_of_unreadable (source : c.source = .collectionField)
    (inapplicable : op ∉ (FieldKind.ofType c.fieldType).operators) (unreadable : ¬ c.Readable ctx) :
    (FieldKind.ofType c.fieldType ∈ [FieldKind.number, .date] ∧ c.ask op ctx = .ok false) ∨
      (FieldKind.ofType c.fieldType ∉ [FieldKind.number, .date] ∧
        ∃ cause, c.ask op ctx = .error cause) := by
  rw [ask_field source, evalField_eq]
  unfold Readable Decodes referenceLists at unreadable
  cases kind : FieldKind.ofType c.fieldType <;> rw [kind] at inapplicable unreadable
  case text => simp at unreadable
  case number =>
    exact .inl ⟨by decide, by simpa [evalNumber_inapplicable inapplicable] using unreadable⟩
  case boolean => simp at unreadable
  case date =>
    exact .inl ⟨by decide, by simpa [evalDate_inapplicable inapplicable] using unreadable⟩
  case reference =>
    refine .inr ⟨by decide, ?_⟩
    simp only [evalReference_inapplicable inapplicable]
    cases decoded : References.decode (some .multiReference) c.value ctx.room with
    | error cause => exact ⟨cause, rfl⟩
    | ok selected => simp [decoded, Except.isOk, Except.toBool] at unreadable
  case multiReference =>
    refine .inr ⟨by decide, ?_⟩
    simp only [evalMultiReference_inapplicable inapplicable]
    cases decoded : References.decode (some .multiReference) (c.fieldValue ctx) ctx.room with
    | error cause => exact ⟨cause, rfl⟩
    | ok current =>
      cases decoded' : References.decode (some .multiReference) c.value ctx.room with
      | error cause => exact ⟨cause, rfl⟩
      | ok selected => simp [decoded, decoded', Except.isOk, Except.toBool] at unreadable

/-- An operator that a condition does not support holds if it is none at all, on every number of
    items, and where the values of the field can be read. It hides what it tests exactly where it is
    an operator of other fields and the field is to hold a number or a day but one of its two values
    cannot be read. -/
theorem inapplicable_operators_hide_unreadable_numbers_and_days (c : Condition) (ctx : Context)
    (inapplicable : ∀ op ∈ c.supported, c.operator ≠ op.name) :
    (c.eval ctx = .ok true ↔
      Operator.ofText? c.operator = none ∨ c.source = .pageCollection ∨ c.Readable ctx) ∧
    (c.eval ctx = .ok false ↔
      Operator.ofText? c.operator ≠ none ∧ c.source = .collectionField ∧
        FieldKind.ofType c.fieldType ∈ [FieldKind.number, .date] ∧ ¬ c.Readable ctx) := by
  cases known : Operator.ofText? c.operator with
  | none =>
    have holds : c.eval ctx = .ok true := by rw [Condition.eval, known]
    simp [holds]
  | some op =>
    have unsupported : op ∉ c.supported := fun member =>
      inapplicable op member (Operator.name_of_ofText? known).symm
    rw [Condition.eval_of_known known]
    unfold Condition.supported at unsupported
    cases source : c.source with
    | pageCollection =>
      rw [source] at unsupported
      simp [Condition.ask_count source, evalCount_inapplicable unsupported]
    | collectionField =>
      rw [source] at unsupported
      by_cases readable : c.Readable ctx
      · simp [Condition.ask_of_readable source unsupported readable, readable]
      · rcases Condition.ask_of_unreadable source unsupported readable
          with ⟨kind, hidden⟩ | ⟨kind, cause, fails⟩
        · simp only [hidden, readable, kind]
          simp
        · simp only [fails, readable, kind]
          simp

theorem contains_hides_words_among_numbers :
    (fieldTest .number "contains" "1").eval (fieldHolds "first") = .ok false ∧
      (fieldTest .number "contains" "1").eval (fieldHolds "10") = .ok true := by
  have inapplicable : ∀ op ∈ (fieldTest .number "contains" "1").supported,
    "contains" ≠ op.name := by decide
  have word := inapplicable_operators_hide_unreadable_numbers_and_days _
    (fieldHolds "first") inapplicable
  have number := inapplicable_operators_hide_unreadable_numbers_and_days _
    (fieldHolds "10") inapplicable
  have unreadable : ¬ (fieldTest .number "contains" "1").Readable (fieldHolds "first") :=
    fun readable =>
    absurd readable.1 (by decide +kernel)
  exact ⟨word.2.mpr ⟨by decide, rfl, by decide, unreadable⟩,
    number.1.mpr (.inr (.inr ⟨by decide +kernel, by decide +kernel⟩))⟩

theorem inapplicable_operators_can_hide :
    ¬ ∀ (c : Condition) (ctx : Context), (∀ op ∈ c.supported, c.operator ≠ op.name) →
      c.eval ctx = .ok true := by
  intro holds
  have hidden : (fieldTest .date "is_not" "2024-02-01").eval (fieldHolds "soon") = .ok false := by
    decide +kernel
  have shown := holds (fieldTest .date "is_not" "2024-02-01") (fieldHolds "soon") (by decide)
  rw [hidden] at shown
  cases shown

end inapplicable

end Visibility
end PageLayers
