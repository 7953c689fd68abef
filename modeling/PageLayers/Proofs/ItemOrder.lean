import PageLayers.Proofs.FieldOrder

/-!
What a sort makes of items, and when it depends on their values alone. The comparison of values
changes between the order of numbers and the order of texts, so that it need not be transitive: a
text can stand between two numbers that come the other way round as numbers. Where none does, a sort
by a field yields the stable order that the comparison tells.
-/

namespace PageLayers

theorem compareValues_of_numbers {a b : String} {x y : ExtendedInt}
    (first : numericPlace? a = some x)
    (second : numericPlace? b = some y) : compareValues a b = x.compare y := by
  unfold compareValues
  rw [first, second]

theorem compareValues_of_text_right {a b : String} (text : numericPlace? b = none) :
    compareValues a b = compareTexts a b := by
  unfold compareValues
  rw [text]
  cases numericPlace? a <;> rfl

instance : Std.TransCmp ExtendedInt.compare := inferInstanceAs (Std.TransOrd ExtendedInt)

instance : Std.OrientedCmp compareValues where
  eq_swap := by
    intro a b
    cases first : numericPlace? a with
    | none =>
      rw [compareValues_of_text first, compareValues_of_text_right first]
      exact Std.OrientedCmp.eq_swap
    | some x =>
      cases second : numericPlace? b with
      | none =>
        rw [compareValues_of_text second, compareValues_of_text_right second]
        exact Std.OrientedCmp.eq_swap
      | some y =>
        rw [compareValues_of_numbers first second, compareValues_of_numbers second first]
        exact Std.OrientedCmp.eq_swap

theorem compareChars_eq {as bs : List Char} (same : compareChars as bs = .eq) : as = bs := by
  induction as generalizing bs with
  | nil => cases bs <;> simp_all [compareChars]
  | cons a as ih =>
    cases bs with
    | nil => simp [compareChars] at same
    | cons b bs =>
      rw [compareChars] at same
      split_ifs at same with less more
      have equal : a = b := Char.toNat_inj.mp (by omega)
      rw [equal, ih same]

theorem compareTexts_eq {a b : String} (same : compareTexts a b = .eq) : a = b :=
  String.toList_inj.mp (compareChars_eq (Ordering.then_eq_eq.mp same).2)

theorem compareValues_empty {s : String} (given : s ≠ "") : compareValues "" s = .lt := by
  have empty : numericPlace? "" = none := by decide
  rw [compareValues_of_text empty, compareTexts_empty given]

/-- Whether the comparison of values is transitive on some of them. -/
def Consistent (values : List String) : Prop :=
  ∀ a ∈ values, ∀ b ∈ values, ∀ c ∈ values,
    (compareValues a b).isLE = true → (compareValues b c).isLE = true →
      (compareValues a c).isLE = true

/-- No text that is no number stands between two numbers that come the other way round as numbers.
    -/
def WordsApart (values : List String) : Prop :=
  ∀ a ∈ values, ∀ b ∈ values, ∀ w ∈ values, (numericPlace? a).isSome = true →
    (numericPlace? b).isSome = true →
    numericPlace? w = none → (compareValues a b).isLE = true →
      ¬ (compareTexts b w = .lt ∧ compareTexts w a = .lt)

theorem OfOneKind.consistent {values : List String} (kind : OfOneKind values) :
    Consistent values := by
  obtain ⟨cmp, _, same⟩ := kind.exists_order
  intro a first b second c third less next
  rw [same a first b second] at less
  rw [same b second c third] at next
  rw [same a first c third]
  exact Std.TransCmp.isLE_trans less next

theorem compareTexts_lt {a b : String} (less : (compareTexts a b).isLE = true)
    (differ : (numericPlace? a).isSome ≠ (numericPlace? b).isSome) : compareTexts a b = .lt := by
  cases found : compareTexts a b with
  | lt => rfl
  | eq => exact absurd (congrArg (fun s => (numericPlace? s).isSome) (compareTexts_eq found)) differ
  | gt => simp [found] at less

theorem Consistent.wordsApart {values : List String} (consistent : Consistent values) :
    WordsApart values := by
  rintro a first b second w third - - word less ⟨above, below⟩
  have next : (compareValues b w).isLE = true := by
    rw [compareValues_of_text_right word, above]; rfl
  have through := consistent a first b second w third less next
  rw [compareValues_of_text_right word, Std.OrientedCmp.gt_of_lt below] at through
  cases through

theorem WordsApart.consistent {values : List String} (apart : WordsApart values) :
    Consistent values := by
  intro a first b second c third less next
  by_contra broken
  have more : (compareValues c a).isLE = true := by
    rw [show compareValues c a = (compareValues a c).swap from Std.OrientedCmp.eq_swap]
    cases found : compareValues a c <;> simp_all
  have texts : (compareTexts a b).isLE = true → (compareTexts b c).isLE = true →
    (compareTexts a c).isLE = true :=
    Std.TransCmp.isLE_trans
  -- Either one of the two orders serves all three values, or two of them are numbers and the third
  -- is a text between these.
  cases x : numericPlace? a with
  | none =>
    rw [compareValues_of_text x] at less broken
    rw [compareValues_of_text_right x] at more
    cases z : numericPlace? c with
    | none =>
      rw [compareValues_of_text_right z] at next
      exact broken (texts less next)
    | some v =>
      cases y : numericPlace? b with
      | none =>
        rw [compareValues_of_text y] at next
        exact broken (texts less next)
      | some u =>
        exact apart b second c third a first (by simp [y]) (by simp [z]) x next
          ⟨compareTexts_lt more (by simp [x, z]), compareTexts_lt less (by simp [x, y])⟩
  | some t =>
    cases y : numericPlace? b with
    | none =>
      rw [compareValues_of_text_right y] at less
      rw [compareValues_of_text y] at next
      cases z : numericPlace? c with
      | none =>
        rw [compareValues_of_text_right z] at broken
        exact broken (texts less next)
      | some v =>
        exact apart c third a first b second (by simp [z]) (by simp [x]) y more
          ⟨compareTexts_lt less (by simp [x, y]), compareTexts_lt next (by simp [y, z])⟩
    | some u =>
      cases z : numericPlace? c with
      | none =>
        rw [compareValues_of_text_right z] at next
        rw [compareValues_of_text z] at more
        exact apart a first b second c third (by simp [x]) (by simp [y]) z less
          ⟨compareTexts_lt next (by simp [y, z]), compareTexts_lt more (by simp [x, z])⟩
      | some v =>
        rw [compareValues_of_numbers x y] at less
        rw [compareValues_of_numbers y z] at next
        rw [compareValues_of_numbers x z] at broken
        exact broken (Std.TransCmp.isLE_trans less next)

theorem consistent_iff_wordsApart (values : List String) : Consistent values ↔ WordsApart values :=
  ⟨Consistent.wordsApart, WordsApart.consistent⟩

theorem compareItems_eq_iff {field : String} {order : SortOrder} {a b : Item} :
    compareItems field order a b = .eq ↔ compareValues (a.sortValue field) (b.sortValue field) =
      .eq := by
  unfold compareItems SortOrder.directed
  cases order <;> cases compareValues (a.sortValue field) (b.sortValue field) <;> simp

section sortByField
variable {sorter : Sorter} {field : String} {order : SortOrder} {items : List Item}

theorem Consistent.preorder (consistent : Consistent (items.map (·.sortValue field)))
    (order : SortOrder) : PreorderOn (compareItems field order) items := by
  have among : ∀ {item}, item ∈ items → item.sortValue field ∈ items.map (·.sortValue field) :=
    List.mem_map_of_mem
  have rising : PreorderOn (compareItems field .ascending) items :=
    { swap := fun _ _ _ _ => (Std.OrientedCmp.eq_swap : compareValues _ _ = _)
      trans := fun a first b second c third =>
        consistent _ (among first) _ (among second) _ (among third) }
  cases order with
  | ascending => exact rising
  | descending => exact rising.turned

theorem Consistent.sortByField_stable (consistent : Consistent (items.map (·.sortValue field))) :
    StablySorted (compareItems field order) items (sortByField sorter field order items) :=
  PageLayers.sortByField_stable (consistent.preorder .ascending)

end sortByField

theorem sortManually_stablySorted (items : List Item) :
    StablySorted (fun a b => compare a.manualOrder b.manualOrder) items (sortManually items) := by
  have : Std.TransCmp fun a b : Item => compare a.manualOrder b.manualOrder :=
    transCmp_on Item.manualOrder
  have same : ∀ a b : Item, (compare a.manualOrder b.manualOrder).isLE =
      decide (a.manualOrder ≤ b.manualOrder) := by
    intro a b
    rw [Bool.eq_iff_iff, Int.isLE_compare, decide_eq_true_iff]
  have sorted : StablySorted (fun a b : Item => compare a.manualOrder b.manualOrder) items _ :=
    .of_transCmp items
  rw [funext₂ same] at sorted
  exact sorted

theorem SortMode.ofText_field {field : String} (named : field ∉ ["", "none", "manual", "random"]) :
    SortMode.ofText (some field) = .field field := by
  simp only [List.mem_cons, List.not_mem_nil, or_false, not_or] at named
  simp [SortMode.ofText, named]

/-- The side on which empty values stand: before all others in ascending order and behind them in
    descending order. -/
def SortOrder.EmptyOutside (order : SortOrder) (a b : String) : Prop :=
  match order with
  | ascending => b = "" → a = ""
  | descending => a = "" → b = ""

theorem SortOrder.emptyOutside_of_allows {order : SortOrder} {a b : String}
    (allowed : order.allows a b = true) : order.EmptyOutside a b := by
  cases order with
  | ascending =>
    rintro rfl
    by_contra given
    simp [allows, directed, Std.OrientedCmp.gt_of_lt (compareValues_empty given)] at allowed
  | descending =>
    rintro rfl
    by_contra given
    simp [allows, directed, compareValues_empty given] at allowed

/-- Items are sorted by the values of a field that are of one kind, in either direction: the sort is
    the stable one by the comparison of the values, with empty values first or else last. A sort by
    the manual order is the stable one by that order, whatever the direction, and without a mode
    items stay as they are. -/
theorem sorts_are_stable (sorter : Sorter) (shuffle : List Item → List Item) (items : List Item)
    (order : SortOrder) :
    (∀ field, field ∉ ["", "none", "manual", "random"] → OfOneKind (items.map (·.sortValue field)) →
      StablySorted (compareItems field order) items
        (sorter.sortItems shuffle (.ofText (some field)) order items) ∧
      (sorter.sortItems shuffle (.ofText (some field)) order items).Pairwise
        (fun a b => order.EmptyOutside (a.sortValue field) (b.sortValue field))) ∧
    StablySorted (fun a b => compare a.manualOrder b.manualOrder) items
      (sorter.sortItems shuffle (.ofText (some "manual")) order items) ∧
    ∀ unset ∈ [none, some "", some "none"], sorter.sortItems shuffle (.ofText unset) order items =
      items := by
  refine ⟨fun field named kind => ?_, sortManually_stablySorted items, fun unset member => ?_⟩
  · rw [SortMode.ofText_field named]
    have sorted :
      StablySorted (compareItems field order) items (sortByField sorter field order items) :=
      kind.consistent.sortByField_stable
    exact ⟨sorted, sorted.ordered.imp SortOrder.emptyOutside_of_allows⟩
  · simp only [List.mem_cons, List.not_mem_nil, or_false] at member
    rcases member with rfl | rfl | rfl <;> rfl

def ranked (ranks : List String) : List Item :=
  ranks.map fun rank =>
    { id := rank, collectionId := "songs", values := if rank = "" then [] else [("rank", rank)] }

theorem ranks_are_sorted_falling :
    "rank" ∉ ["", "none", "manual", "random"] ∧
    OfOneKind ((ranked ["9", "10.0", "", "1e1"]).map (·.sortValue "rank")) ∧
      StablySorted (compareItems "rank" .descending) (ranked ["9", "10.0", "", "1e1"])
        (sortItems id (.ofText (some "rank")) .descending (ranked ["9", "10.0", "", "1e1"])) := by
  have named : "rank" ∉ ["", "none", "manual", "random"] := by decide
  have kind : OfOneKind ((ranked ["9", "10.0", "", "1e1"]).map (·.sortValue "rank")) :=
    .inr (by decide +kernel)
  exact ⟨named, kind, ((sorts_are_stable .byRuns id _ .descending).1 "rank" named kind).1⟩

theorem word_between_numbers_is_not_consistent :
    ¬ ((∀ a b, compareValues a b = (compareValues b a).swap) ∧
      ∀ a b c, (compareValues a b).isLE = true → (compareValues b c).isLE = true →
        (compareValues a c).isLE = true) := by
  rintro ⟨-, trans⟩
  exact absurd (trans "9" "10" "1a" (by decide +kernel) (by decide +kernel)) (by decide +kernel)

/-- The comparison of two values is turned by turning the values. It is consistent on exactly those
    values of which none stands as a text between two numbers that come the other way round as
    numbers. On such values the order in which items are fetched does not matter to a sort, up to
    ties. -/
theorem consistent_exactly_where_words_are_apart :
    (∀ a b, compareValues a b = (compareValues b a).swap) ∧
    (∀ values, Consistent values ↔ WordsApart values) ∧
    ∀ (sorter : Sorter) shuffle field order items fetched,
      WordsApart (items.map (·.sortValue field)) → fetched.Perm items →
      List.Forall₂ (fun a b => compareValues (a.sortValue field) (b.sortValue field) = .eq)
        (sorter.sortItems shuffle (.field field) order items)
        (sorter.sortItems shuffle (.field field) order fetched) := by
  refine ⟨fun _ _ => Std.OrientedCmp.eq_swap, consistent_iff_wordsApart, ?_⟩
  intro sorter shuffle field order items fetched apart perm
  have consistent : Consistent (items.map (·.sortValue field)) :=
    (consistent_iff_wordsApart _).mpr apart
  have again : Consistent (fetched.map (·.sortValue field)) := by
    have members : ∀ v ∈ fetched.map (·.sortValue field), v ∈ items.map (·.sortValue field) :=
      fun v => (perm.map _).mem_iff.mp
    exact fun a first b second c third =>
      consistent a (members a first) b (members b second) c (members c third)
  refine (StablySorted.forall₂_of_perm (consistent.preorder order) perm
    consistent.sortByField_stable
    again.sortByField_stable).imp fun a b tie => ?_
  exact compareItems_eq_iff.mp tie

theorem numbers_before_words_agree :
    WordsApart ((ranked ["9", "10", "side a", ""]).map (·.sortValue "rank")) ∧
      (ranked ["", "10", "side a", "9"]).Perm (ranked ["9", "10", "side a", ""]) ∧
      List.Forall₂ (fun a b => compareValues (a.sortValue "rank") (b.sortValue "rank") = .eq)
        (sortItems id (.field "rank") .ascending (ranked ["9", "10", "side a", ""]))
        (sortItems id (.field "rank") .ascending (ranked ["", "10", "side a", "9"])) := by
  have apart : WordsApart ((ranked ["9", "10", "side a", ""]).map (·.sortValue "rank")) := by
    unfold WordsApart
    decide +kernel
  have perm : (ranked ["", "10", "side a", "9"]).Perm (ranked ["9", "10", "side a", ""]) := by
    decide
  exact ⟨apart, perm,
    consistent_exactly_where_words_are_apart.2.2 .byRuns id "rank" .ascending _ _ apart perm⟩

end PageLayers
