import Mathlib.Order.Basic
import PageLayers.Collection.Order
import PageLayers.Proofs.StableSort

/-!
The order in which a sort by a field puts items whose values are of one kind. Among texts, and among
numbers and empty values, the comparison of values is a total preorder, so that the sort of a list
of lists joined together can be told from the sorts of its parts.
-/

namespace PageLayers

section mergeSort
variable {α : Type} {le : α → α → Bool}

theorem filter_not_le {a : α} {front back tail : List α}
    (sorted : (front ++ a :: back).Pairwise fun x y => le x y = true)
    (after : ∀ b ∈ tail, le a b = true) (above : ∀ b ∈ front, (!le a b) = true) :
    (front ++ (back ++ tail)).filter (fun b => !le a b) = front := by
  have behind : (back ++ tail).filter (fun b => !le a b) = [] := by
    refine List.filter_eq_nil_iff.mpr fun b member => ?_
    rcases List.mem_append.mp member with inBack | inTail
    · simpa using List.rel_of_pairwise_cons (List.pairwise_append.mp sorted).2.1 inBack
    · simpa using after b inTail
  rw [List.filter_append, behind, List.append_nil, List.filter_eq_self]
  exact above

variable (trans : ∀ a b c, le a b = true → le b c = true → le a c = true)
    (total : ∀ a b, (le a b || le b a) = true)
include trans total

theorem mergeSort_append {xs ys : List α} (before : ∀ a ∈ xs, ∀ b ∈ ys, le a b = true) :
    (xs ++ ys).mergeSort le = xs.mergeSort le ++ ys.mergeSort le := by
  induction xs with
  | nil => simp
  | cons a xs ih =>
    have rest := ih fun x member => before x (List.mem_cons_of_mem a member)
    obtain ⟨front, back, whole, split, above⟩ := List.mergeSort_cons trans total a (xs ++ ys)
    obtain ⟨first, last, part, parted, below⟩ := List.mergeSort_cons trans total a xs
    have same : front ++ back = first ++ (last ++ ys.mergeSort le) := by
      rw [← split, rest, parted, List.append_assoc]
    -- The new element stands in the same place: behind what it may not precede.
    have fronts : front = first := by
      calc front
        _ = (front ++ (back ++ [])).filter (fun b => !le a b) :=
          (filter_not_le (whole ▸ List.pairwise_mergeSort trans total _) (by simp) above).symm
        _ = (first ++ (last ++ ys.mergeSort le)).filter (fun b => !le a b) := by
          rw [List.append_nil, same]
        _ = first := filter_not_le (part ▸ List.pairwise_mergeSort trans total _)
          (fun b member => before a (List.mem_cons_self ..) b (List.mem_mergeSort.mp member)) below
    have backs : back = last ++ ys.mergeSort le := by
      rw [fronts] at same
      exact List.append_cancel_left same
    rw [List.cons_append, whole, part, fronts, backs, List.append_assoc, List.cons_append]

theorem mergeSort_eq_append_iff {xs ys : List α} :
    (∃ rest, (xs ++ ys).mergeSort le = xs.mergeSort le ++ rest) ↔ ∀ a ∈ xs, ∀ b ∈ ys,
      le a b = true := by
  constructor
  · rintro ⟨rest, sorted⟩ a inXs b inYs
    have perm : (xs ++ ys).Perm (xs ++ rest) := by
      refine (List.mergeSort_perm _ le).symm.trans ?_
      rw [sorted]
      exact (List.mergeSort_perm xs le).append_right rest
    have inRest : b ∈ rest := ((List.perm_append_left_iff xs).mp perm).mem_iff.mp inYs
    have ordered := List.pairwise_mergeSort trans total (xs ++ ys)
    rw [sorted] at ordered
    exact (List.pairwise_append.mp ordered).2.2 a (List.mem_mergeSort.mpr inXs) b inRest
  · intro before
    exact ⟨_, mergeSort_append trans total before⟩

theorem mergeSort_flatten_iff {lists : List (List α)} :
    (lists.map (·.mergeSort le)).flatten = lists.flatten.mergeSort le ↔
      lists.Pairwise fun xs ys => ∀ a ∈ xs, ∀ b ∈ ys, le a b = true := by
  constructor
  · intro same
    have ordered := List.pairwise_mergeSort trans total lists.flatten
    rw [← same, List.pairwise_flatten, List.pairwise_map] at ordered
    refine ordered.2.imp fun {xs ys} cross a inXs b inYs => ?_
    exact cross a (List.mem_mergeSort.mpr inXs) b (List.mem_mergeSort.mpr inYs)
  · intro ordered
    induction ordered with
    | nil => simp
    | @cons xs lists cross _ ih =>
      have before : ∀ a ∈ xs, ∀ b ∈ lists.flatten, le a b = true := by
        intro a inXs b inRest
        obtain ⟨ys, listed, inYs⟩ := List.mem_flatten.mp inRest
        exact cross ys listed a inXs b inYs
      rw [List.map_cons, List.flatten_cons, List.flatten_cons, ih,
        mergeSort_append trans total before]

/-- What is sorted after a list was cut are the first elements in order exactly if the cut list is
    long enough and comes before what was cut off. -/
theorem mergeSort_eq_take_iff {xs ys : List α} {n : Nat} (short : xs.length ≤ n) :
    xs.mergeSort le = ((xs ++ ys).mergeSort le).take n ↔
      (ys = [] ∨ xs.length = n) ∧ ∀ a ∈ xs, ∀ b ∈ ys, le a b = true := by
  constructor
  · intro same
    have lengths := congrArg List.length same
    rw [List.length_mergeSort, List.length_take, List.length_mergeSort, List.length_append]
      at lengths
    refine ⟨?_, (mergeSort_eq_append_iff trans total).mp ⟨((xs ++ ys).mergeSort le).drop n, ?_⟩⟩
    · rw [← List.length_eq_zero_iff]
      omega
    · rw [same]
      exact (List.take_append_drop n _).symm
  · rintro ⟨enough, before⟩
    rw [mergeSort_append trans total before]
    rcases enough with rfl | long
    · rw [List.mergeSort_nil, List.append_nil, List.take_of_length_le (by simpa using short)]
    · rw [List.take_left' (by simpa using long)]

end mergeSort

theorem compareChars_eq_compareLex (as bs : List Char) :
    compareChars as bs = List.compareLex (compareOn Char.toNat) as bs := by
  induction as generalizing bs with
  | nil => cases bs <;> rfl
  | cons a as ih =>
    cases bs with
    | nil => rfl
    | cons b bs =>
      rw [compareChars, List.compareLex, ih]
      unfold compareOn
      rcases Nat.lt_trichotomy a.toNat b.toNat with less | same | more
      · simp [Nat.compare_eq_lt.mpr less, less]
      · simp [same]
      · simp [Nat.compare_eq_gt.mpr more, more, Nat.lt_asymm more]

instance : Std.TransCmp compareChars :=
  (funext₂ compareChars_eq_compareLex : compareChars = _) ▸ inferInstance

theorem transCmp_on {α β : Type} {cmp : β → β → Ordering} [Std.TransCmp cmp] (f : α → β) :
    Std.TransCmp fun a b => cmp (f a) (f b) where
  eq_swap := Std.OrientedCmp.eq_swap
  isLE_trans := Std.TransCmp.isLE_trans

instance : Std.TransCmp compareTexts :=
  have : Std.TransCmp fun a b => compareChars (textKey a) (textKey b) := transCmp_on textKey
  have : Std.TransCmp fun a b : String => compareChars a.toList b.toList :=
    transCmp_on String.toList
  inferInstanceAs (Std.TransCmp (compareLex (fun a b => compareChars (textKey a) (textKey b))
    fun a b => compareChars a.toList b.toList))

theorem ExtendedInt.lt_asymm {x y : ExtendedInt} (less : x.lt y = true) : y.lt x = false := by
  cases x <;> cases y <;> simp_all [ExtendedInt.lt]
  exact Int.le_of_lt less

theorem ExtendedInt.isLE_compare (x y : ExtendedInt) : (x.compare y).isLE = !y.lt x := by
  unfold ExtendedInt.compare
  cases less : x.lt y with
  | true => simp [ExtendedInt.lt_asymm less]
  | false => cases y.lt x <;> rfl

instance : Ord ExtendedInt := ⟨ExtendedInt.compare⟩

instance : Std.TransOrd ExtendedInt where
  eq_swap := by
    intro x y
    change x.compare y = (y.compare x).swap
    unfold ExtendedInt.compare
    cases less : x.lt y with
    | true => simp [ExtendedInt.lt_asymm less]
    | false => cases y.lt x <;> rfl
  isLE_trans := by
    intro x y z first second
    change (x.compare y).isLE = true at first
    change (y.compare z).isLE = true at second
    change (x.compare z).isLE = true
    rw [ExtendedInt.isLE_compare] at first second ⊢
    cases x <;> cases y <;> cases z <;> simp_all [ExtendedInt.lt]
    exact Int.le_trans first second

def compareNumbers : String → String → Ordering := compareOn numericPlace?

instance : Std.TransCmp compareNumbers := inferInstanceAs (Std.TransCmp (compareOn numericPlace?))

/-- Values that are all no numbers, or all numbers where some may be missing. -/
def OfOneKind (values : List String) : Prop :=
  (∀ v ∈ values, numericPlace? v = none) ∨ ∀ v ∈ values, v = "" ∨ (numericPlace? v).isSome = true

theorem compareValues_of_text {a b : String} (text : numericPlace? a = none) :
    compareValues a b = compareTexts a b := by
  unfold compareValues
  rw [text]

theorem compareTexts_empty {s : String} (given : s ≠ "") : compareTexts "" s = .lt := by
  have key : textKey "" = [] := by decide
  have first : ∀ {cs : List Char}, cs ≠ [] → compareChars [] cs = .lt := by
    intro cs nonempty
    cases cs with
    | nil => exact absurd rfl nonempty
    | cons c cs => rfl
  have chars : compareChars "".toList s.toList = .lt := first (by simpa using given)
  rw [compareTexts, key, chars]
  cases textKey s with
  | nil => rfl
  | cons c cs => rfl

theorem compareValues_of_number {a b : String} (first : a = "" ∨ (numericPlace? a).isSome = true)
    (second : b = "" ∨ (numericPlace? b).isSome = true) :
    compareValues a b = compareNumbers a b := by
  have empty : numericPlace? "" = none := by decide
  have given : ∀ {s : String} {x : ExtendedInt}, numericPlace? s = some x → s ≠ "" := by
    rintro s x found rfl
    exact absurd (empty.symm.trans found) (by simp)
  unfold compareNumbers compareOn
  cases place : numericPlace? a with
  | none =>
    rw [compareValues_of_text place]
    have missing : a = "" := by simpa [place] using first
    cases other : numericPlace? b with
    | none =>
      have both : b = "" := by simpa [other] using second
      rw [missing, both]
      decide
    | some y =>
      rw [missing, compareTexts_empty (given other)]
      rfl
  | some x =>
    cases other : numericPlace? b with
    | none =>
      have missing : b = "" := by simpa [other] using second
      have swapped : compareTexts a "" = (compareTexts "" a).swap := Std.OrientedCmp.eq_swap
      unfold compareValues
      rw [place, other, missing, swapped, compareTexts_empty (given place)]
      rfl
    | some y =>
      unfold compareValues
      rw [place, other]
      rfl

theorem OfOneKind.subset {values part : List String} (kind : OfOneKind values)
    (within : part ⊆ values) : OfOneKind part :=
  kind.imp (fun texts v member => texts v (within member))
    (fun numbers v member => numbers v (within member))

theorem OfOneKind.exists_order {values : List String} (kind : OfOneKind values) :
    ∃ cmp : String → String → Ordering, Std.TransCmp cmp ∧ ∀ a ∈ values, ∀ b ∈ values,
      compareValues a b = cmp a b := by
  rcases kind with texts | numbers
  · exact ⟨compareTexts, inferInstance, fun a member b _ => compareValues_of_text (texts a member)⟩
  · exact ⟨compareNumbers, inferInstance, fun a first b second =>
      compareValues_of_number (numbers a first) (numbers b second)⟩

def SortOrder.directed : SortOrder → Ordering → Ordering
  | ascending, o => o
  | descending, o => o.swap

def compareItems (field : String) (order : SortOrder) (a b : Item) : Ordering :=
  order.directed (compareValues (a.sortValue field) (b.sortValue field))

def SortOrder.allows (order : SortOrder) (a b : String) : Bool :=
  (order.directed (compareValues a b)).isLE

/-- Whether a sort by a field may leave each of the first items before each of the second ones. -/
def SortOrder.Precede (order : SortOrder) (field : String) (xs ys : List Item) : Prop :=
  ∀ a ∈ xs, ∀ b ∈ ys, order.allows (a.sortValue field) (b.sortValue field) = true

theorem SortOrder.directed_transCmp {α : Type} (order : SortOrder) (cmp : α → α → Ordering)
    [Std.TransCmp cmp] : Std.TransCmp fun a b => order.directed (cmp a b) := by
  cases order with
  | ascending => exact inferInstanceAs (Std.TransCmp cmp)
  | descending =>
    have turned : (fun a b => (cmp a b).swap) = fun a b => cmp b a :=
      funext₂ fun _ _ => Std.OrientedCmp.eq_swap.symm
    change Std.TransCmp fun a b => (cmp a b).swap
    rw [turned]
    exact Std.TransCmp.opposite

section sortByField
variable {sorter : Sorter} {field : String} {order : SortOrder} {items : List Item}

theorem sortByField_perm (sorter : Sorter) (field : String) (order : SortOrder)
    (items : List Item) : (sortByField sorter field order items).Perm items := by
  cases order with
  | ascending => exact sorter.perm _ items
  | descending =>
    exact (List.reverse_perm _).trans
      ((sorter.perm _ items.reverse).trans (List.reverse_perm items))

theorem sortByField_subset {xs : List Item} (within : xs ⊆ items) :
    sortByField sorter field order xs ⊆ items :=
  List.Subset.trans (sortByField_perm sorter field order xs).subset within

theorem sortByField_stable (preorder : PreorderOn (compareItems field .ascending) items) :
    StablySorted (compareItems field order) items (sortByField sorter field order items) := by
  cases order with
  | ascending => exact sorter.stable _ items preorder
  | descending =>
    have turned : PreorderOn (compareItems field .ascending) items.reverse :=
      preorder.subset (List.reverse_perm items).subset
    exact (sorter.stable _ items.reverse turned).reverse preorder

/-- On items with values of one kind, a sort by a field is the sort by a total preorder on all
    items. -/
theorem exists_preorder (kind : OfOneKind (items.map (·.sortValue field))) (sorter : Sorter)
    (order : SortOrder) :
    ∃ le : Item → Item → Bool, (∀ a b c, le a b = true → le b c = true → le a c = true) ∧
      (∀ a b, (le a b || le b a) = true) ∧
      (∀ xs ⊆ items, sortByField sorter field order xs = xs.mergeSort le) ∧
      ∀ xs ⊆ items, ∀ ys ⊆ items, order.Precede field xs ys ↔ ∀ a ∈ xs, ∀ b ∈ ys,
        le a b = true := by
  obtain ⟨cmp, _, same⟩ := kind.exists_order
  let byField : Item → Item → Ordering := fun a b => cmp (a.sortValue field) (b.sortValue field)
  have : Std.TransCmp byField := transCmp_on fun item : Item => item.sortValue field
  let directed : Item → Item → Ordering := fun a b => order.directed (byField a b)
  have : Std.TransCmp directed := order.directed_transCmp byField
  have alike : ∀ order : SortOrder, ∀ a ∈ items, ∀ b ∈ items,
      order.directed (byField a b) = compareItems field order a b := fun order a first b second =>
    congrArg order.directed (same _ (List.mem_map_of_mem first) _ (List.mem_map_of_mem second)).symm
  refine ⟨fun a b => (directed a b).isLE, fun _ _ _ => Std.TransCmp.isLE_trans, isLE_total, ?_, ?_⟩
  · intro xs within
    have preorder : PreorderOn byField xs := .of_transCmp xs
    have rising : PreorderOn (compareItems field .ascending) xs :=
      preorder.congr fun a first b second => alike .ascending a (within first) b (within second)
    have sorted : StablySorted directed xs (sortByField sorter field order xs) :=
      (sortByField_stable rising).congr fun a first b second =>
        (alike order a (within first) b (within second)).symm
    exact sorted.unique (.of_transCmp xs) (.of_transCmp xs)
  · intro xs withinX ys withinY
    refine forall₄_congr fun a first b second => ?_
    change (compareItems field order a b).isLE = true ↔ (directed a b).isLE = true
    rw [← alike order a (withinX first) b (withinY second)]

theorem sortByField_flatten_iff {lists : List (List Item)}
    (kind : OfOneKind (lists.flatten.map (·.sortValue field))) :
    (lists.map (sortByField sorter field order)).flatten =
      sortByField sorter field order lists.flatten ↔
      lists.Pairwise (order.Precede field) := by
  obtain ⟨le, trans, total, sorts, precedes⟩ := exists_preorder kind sorter order
  have each : ∀ xs ∈ lists, xs ⊆ lists.flatten := fun xs member a inXs =>
    List.mem_flatten_of_mem member inXs
  rw [sorts _ (List.Subset.refl _), List.map_congr_left fun xs member => sorts xs (each xs member),
    mergeSort_flatten_iff trans total]
  exact List.Pairwise.iff_of_mem fun {xs ys} first second =>
    (precedes xs (each xs first) ys (each ys second)).symm

theorem sortByField_eq_take_iff {xs ys : List Item} {n : Nat}
    (kind : OfOneKind ((xs ++ ys).map (·.sortValue field))) (short : xs.length ≤ n) :
    sortByField sorter field order xs = (sortByField sorter field order (xs ++ ys)).take n ↔
      (ys = [] ∨ xs.length = n) ∧ order.Precede field xs ys := by
  obtain ⟨le, trans, total, sorts, precedes⟩ := exists_preorder kind sorter order
  have left : xs ⊆ xs ++ ys := List.subset_append_left xs ys
  have right : ys ⊆ xs ++ ys := List.subset_append_right xs ys
  rw [sorts _ (List.Subset.refl _), sorts xs left, precedes xs left ys right]
  exact mergeSort_eq_take_iff trans total short

end sortByField

end PageLayers
