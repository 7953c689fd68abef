import Mathlib.Data.List.Infix
import PageLayers.Pass
import PageLayers.Proofs.Injection

/-!
What is seen of a tree. A node is told by its lineage, which is its element and those around it,
from the inside out; the lineages of a forest, each before those within it, leave no doubt about the
forest. The filter keeps the lineages of which every element passes in its scope. It reports those
that fail within others that pass, and what is kept it leaves alone from then on.
-/

namespace PageLayers

/-- An element and those around it, from the inside out. -/
abbrev Lineage := List Element

namespace Layer

mutual
def lineages : Lineage → Layer → List Lineage
  | around, ⟨e, children⟩ => (e :: around) :: forestLineages (e :: around) children

def forestLineages : Lineage → List Layer → List Lineage
  | _, [] => []
  | around, l :: ls => lineages around l ++ forestLineages around ls
end

/-- Whether what follows in a list of lineages has left the layers at some depth. -/
def Leaves (depth : Nat) (rest : List Lineage) : Prop := ∀ p ∈ rest.head?, p.length ≤ depth

theorem leaves_forestLineages {around : Lineage} {rest : List Lineage}
    (leaves : Leaves around.length rest)
    (ls : List Layer) : Leaves (around.length + 1) (forestLineages around ls ++ rest) := by
  intro p first
  cases ls with
  | nil => exact Nat.le_succ_of_le (leaves p first)
  | cons l ls =>
    obtain ⟨e, children⟩ := l
    simp only [forestLineages, lineages, List.cons_append, List.head?_cons, Option.mem_def,
      Option.some.injEq] at first
    simp [← first]

mutual
theorem eq_of_lineages : ∀ (l l' : Layer) {around : Lineage} {rest rest' : List Lineage},
    Leaves (around.length + 1) rest → Leaves (around.length + 1) rest' →
      lineages around l ++ rest = lineages around l' ++ rest' → l = l' ∧ rest = rest'
  | ⟨e, children⟩, ⟨e', children'⟩, around, rest, rest' => by
    intro leaves leaves' same
    simp only [lineages, List.cons_append, List.cons.injEq] at same
    obtain ⟨⟨rfl, _⟩, below⟩ := same
    obtain ⟨rfl, after⟩ :=
      @eq_of_forestLineages children children' (e :: around) rest rest' leaves leaves' below
    exact ⟨rfl, after⟩

theorem eq_of_forestLineages : ∀ (ls ls' : List Layer) {around : Lineage}
    {rest rest' : List Lineage},
    Leaves around.length rest → Leaves around.length rest' →
      forestLineages around ls ++ rest = forestLineages around ls' ++ rest' → ls = ls' ∧
      rest = rest'
  | [], [], around, rest, rest' => by
    intro _ _ same
    exact ⟨rfl, same⟩
  | [], ⟨e, children⟩ :: ls', around, rest, rest' => by
    intro leaves _ same
    -- The lineage of a further layer is longer than any that may follow.
    have short := leaves (e :: around) (by simp [show rest = _ from same, forestLineages, lineages])
    exact absurd short (Nat.not_succ_le_self _)
  | ⟨e, children⟩ :: ls, [], around, rest, rest' => by
    intro _ leaves' same
    have short :=
      leaves' (e :: around) (by simp [show rest' = _ from same.symm, forestLineages, lineages])
    exact absurd short (Nat.not_succ_le_self _)
  | l :: ls, l' :: ls', around, rest, rest' => by
    intro leaves leaves' same
    simp only [forestLineages, List.append_assoc] at same
    obtain ⟨rfl, others⟩ := eq_of_lineages l l' (leaves_forestLineages leaves ls)
      (leaves_forestLineages leaves' ls') same
    obtain ⟨rfl, after⟩ := eq_of_forestLineages ls ls' leaves leaves' others
    exact ⟨rfl, after⟩
end

mutual
theorem suffix_of_mem_lineages {p : Lineage} : ∀ (l : Layer) {around : Lineage},
    p ∈ lineages around l →
    ∃ e outer, p = e :: outer ∧ around <:+ outer
  | ⟨e, children⟩, around => by
    intro member
    rcases List.mem_cons.mp member with rfl | below
    · exact ⟨e, around, rfl, List.suffix_rfl⟩
    · obtain ⟨o, outer, rfl, longer⟩ := suffix_of_mem_forestLineages children below
      exact ⟨o, outer, rfl, (List.suffix_cons e around).trans longer⟩

theorem suffix_of_mem_forestLineages {p : Lineage} : ∀ (ls : List Layer) {around : Lineage},
    p ∈ forestLineages around ls → ∃ e outer, p = e :: outer ∧ around <:+ outer
  | [], around => by
    intro member
    simp [forestLineages] at member
  | l :: ls, around => by
    intro member
    rcases List.mem_append.mp member with first | later
    · exact suffix_of_mem_lineages l first
    · exact suffix_of_mem_forestLineages ls later
end

mutual
theorem lineages_elements (around : Lineage) : ∀ l : Layer,
    (lineages around l).filterMap List.head? = (preorder l).map (·.toElement)
  | ⟨e, children⟩ => by
    rw [lineages, preorder, List.map_cons, ← forestLineages_elements (e :: around)]
    rfl

theorem forestLineages_elements (around : Lineage) : ∀ ls : List Layer,
    (forestLineages around ls).filterMap List.head? = (preorderForest ls).map (·.toElement)
  | [] => rfl
  | l :: ls => by
    rw [forestLineages, preorderForest, List.filterMap_append, List.map_append,
      lineages_elements around l, forestLineages_elements around ls]
end

end Layer

/-- A verdict on an expression that depends on nothing but the values in scope and the numbers of
    items. -/
abbrev Visibility.Verdict := Visibility.Expression → Option Values → Entries Int → Bool

namespace Lineage

def values (root : Option Values) (p : Lineage) : Option Values :=
  (p.findSome? (·.itemValues)).or root

def expression? (p : Lineage) : Option Visibility.Expression :=
  (p.head?.bind (·.bindings.visibility)).filter fun x => !x.isEmpty

def context (root : Option Values) (counts : Entries Int) (p : Lineage) : Visibility.Context where
  itemValues := p.values root
  counts := counts
  room := Visible.outerRoom - Visible.levelRoom * (p.length - 1)

def inside (root : Option Values) (counts : Entries Int) (p : Lineage) : Visibility.Context where
  itemValues := p.values root
  counts := counts
  room := Visible.outerRoom - Visible.levelRoom * p.length

section verdict
variable (holds : Visibility.Verdict) (root : Option Values) (counts : Entries Int)

def passes (p : Lineage) : Bool := p.expression?.all fun x => holds x (p.values root) counts

def isSeen (p : Lineage) : Bool := p.tails.all (passes holds root counts)

def isDropped (p : Lineage) : Bool := !passes holds root counts p && isSeen holds root counts p.tail

def droppedIds (lineages : List Lineage) : List String :=
  (lineages.filter (isDropped holds root counts)).filterMap fun p => p.head?.map (·.id)

end verdict
end Lineage

/-- The evaluator comes to the verdict on each expression that it is asked for: that of an element
    within others that pass. -/
def Visibility.Evaluator.Decides (evaluator : Visibility.Evaluator) (holds : Visibility.Verdict)
    (root : Option Values) (counts : Entries Int) (lineages : List Lineage) : Prop :=
  ∀ p ∈ lineages, Lineage.isSeen holds root counts p.tail = true → ∀ x ∈ p.expression?,
    evaluator x (p.context root counts) = .ok (holds x (p.values root) counts)

instance (evaluator : Visibility.Evaluator) (holds : Visibility.Verdict) (root : Option Values)
    (counts : Entries Int)
    (lineages : List Lineage) : Decidable (evaluator.Decides holds root counts lineages) :=
  inferInstanceAs
    (Decidable (∀ p ∈ lineages, Lineage.isSeen holds root counts p.tail = true →
      ∀ x ∈ p.expression?,
    evaluator x (p.context root counts) = .ok (holds x (p.values root) counts)))

namespace Lineage
variable {holds : Visibility.Verdict} {root : Option Values} {counts : Entries Int}

theorem isSeen_cons (e : Element) (around : Lineage) :
    isSeen holds root counts (e :: around) =
      (passes holds root counts (e :: around) && isSeen holds root counts around) := by
  simp [isSeen]

theorem all_tails_of_suffix {q : Lineage → Bool} {around p : Lineage} (longer : around <:+ p)
    (all : p.tails.all q = true) : around.tails.all q = true := by
  rw [List.all_eq_true] at all ⊢
  intro o outer
  exact all o ((List.mem_tails o p).mpr (((List.mem_tails o around).mp outer).trans longer))

theorem isSeen_of_suffix {around p : Lineage} (longer : around <:+ p)
    (seen : isSeen holds root counts p = true) : isSeen holds root counts around = true :=
  all_tails_of_suffix longer seen

theorem not_isDropped_of_isSeen {p : Lineage} (seen : isSeen holds root counts p = true) :
    isDropped holds root counts p = false := by
  cases p with
  | nil => rfl
  | cons e around =>
    rw [isSeen_cons, Bool.and_eq_true] at seen
    simp [isDropped, seen.1]

theorem values_cons (e : Element) (around : Lineage) :
    values root (e :: around) = e.scope (values root around) := by
  rw [values, values, List.findSome?_cons, Element.scope]
  cases e.itemValues <;> rfl

theorem inside_cons (e : Element) (around : Lineage) :
    { inside root counts around with itemValues := e.scope (values root around) } =
      context root counts (e :: around) := by
  simp [inside, context, values_cons]

theorem inside_of_context (e : Element) (around : Lineage) :
    { context root counts (e :: around) with room := (context root counts (e :: around)).room -
      Visible.levelRoom } =
      inside root counts (e :: around) := by
  simp only [context, inside, List.length_cons, Nat.add_sub_cancel, Nat.mul_succ, Nat.sub_sub]

@[simp] theorem droppedIds_append (ps qs : List Lineage) :
    droppedIds holds root counts (ps ++ qs) = droppedIds holds root counts ps ++
      droppedIds holds root counts qs := by
  simp [droppedIds]

end Lineage

open Lineage

theorem Visibility.Evaluator.Decides.mono {evaluator : Visibility.Evaluator}
    {holds : Visibility.Verdict}
    {root : Option Values} {counts : Entries Int} {ps qs : List Lineage}
    (decides : evaluator.Decides holds root counts ps) (fewer : qs ⊆ ps) :
    evaluator.Decides holds root counts qs := by
  intro p member
  exact decides p (fewer member)

section filter
variable {evaluator : Visibility.Evaluator} {holds : Visibility.Verdict} {root : Option Values}
    {counts : Entries Int}

theorem Element.isSeen_eq_passes {e : Element} {around : Lineage}
    (decided : ∀ x ∈ expression? (e :: around),
      evaluator x (context root counts (e :: around)) =
        .ok (holds x (values root (e :: around)) counts)) :
    e.isSeen evaluator (context root counts (e :: around)) =
      .ok (passes holds root counts (e :: around)) := by
  cases binding : e.bindings.visibility with
  | none => simp [Element.isSeen, passes, expression?, binding]
  | some x =>
    by_cases empty : x.isEmpty = true
    · simp [Element.isSeen, passes, expression?, binding, empty]
    · have stated : expression? (e :: around) = some x := by simp [expression?, binding, empty]
      rw [stated] at decided
      simp [Element.isSeen, passes, binding, empty, stated, decided x rfl]

theorem Element.isSeen_given (e : Element) (ctx : Visibility.Context) :
    e.isSeen (evaluator.given (.ok root) (.ok counts)) ctx =
      e.isSeen evaluator { ctx with itemValues := ctx.itemValues.or root, counts } := by
  have given : ∀ x, evaluator.given (.ok root) (.ok counts) x ctx =
      evaluator x { ctx with itemValues := ctx.itemValues.or root, counts } := by
    intro x
    obtain ⟨itemValues, _, _⟩ := ctx
    cases itemValues <;> rfl
  simp only [Element.isSeen, given]

namespace Layer

/-- What is seen of nodes with the given lineages: exactly those of which every element passes. -/
structure Shows (holds : Visibility.Verdict) (root : Option Values) (counts : Entries Int)
    (around : Lineage) (ps : List Lineage) (seen : Visible) : Prop where
  kept : forestLineages around seen.layers = ps.filter (isSeen holds root counts)
  hidden : seen.hidden = droppedIds holds root counts ps

theorem forestLineages_append (around : Lineage) (ls ls' : List Layer) :
    forestLineages around (ls ++ ls') = forestLineages around ls ++ forestLineages around ls' := by
  induction ls with
  | nil => rfl
  | cons l ls ih => simp only [List.cons_append, forestLineages, ih, List.append_assoc]

theorem filter_all_tails_eq_nil {q : Lineage → Bool} {around : Lineage}
    (fails : around.tails.all q = false) (ls : List Layer) :
    (forestLineages around ls).filter (fun p => p.tails.all q) = [] := by
  rw [List.filter_eq_nil_iff]
  intro p member all
  obtain ⟨e, outer, rfl, longer⟩ := suffix_of_mem_forestLineages ls member
  rw [all_tails_of_suffix (longer.trans (List.suffix_cons e outer)) all] at fails
  contradiction

theorem shows_nothing {around : Lineage} (unseen : isSeen holds root counts around = false)
    (ls : List Layer) :
    (forestLineages around ls).filter (isSeen holds root counts) = [] ∧
      droppedIds holds root counts (forestLineages around ls) = [] := by
  refine ⟨filter_all_tails_eq_nil unseen ls, ?_⟩
  have hidden : ∀ p ∈ forestLineages around ls, isSeen holds root counts p.tail = false := by
    intro p member
    obtain ⟨e, outer, rfl, longer⟩ := suffix_of_mem_forestLineages ls member
    by_contra seen
    rw [isSeen_of_suffix longer (by simpa using seen)] at unseen
    contradiction
  rw [droppedIds, List.filter_eq_nil_iff.mpr, List.filterMap_nil]
  intro p member
  simp [isDropped, hidden p member]

theorem visibleIn_inside (e : Element) (children : List Layer) (around : Lineage) :
    visibleIn evaluator ⟨e, children⟩ (inside root counts around) = (do
      if ← e.isSeen evaluator (context root counts (e :: around)) then
        let inner ← visibleForestIn evaluator children (inside root counts (e :: around))
        return ⟨[⟨e, inner.layers⟩], inner.hidden⟩
      else return ⟨[], [e.id]⟩) := by
  rw [visibleIn, ← inside_of_context, ← inside_cons]
  rfl

mutual
theorem visibleIn_shows : ∀ (l : Layer) {around : Lineage}, isSeen holds root counts around = true →
    evaluator.Decides holds root counts (lineages around l) →
      ∃ seen, visibleIn evaluator l (inside root counts around) = .ok seen ∧
        Shows holds root counts around (lineages around l) seen
  | ⟨e, children⟩, around => by
    intro outer decides
    have own := Element.isSeen_eq_passes (decides (e :: around) List.mem_cons_self outer)
    by_cases passed : passes holds root counts (e :: around) = true
    · have seenHere : isSeen holds root counts (e :: around) = true := by
        rw [isSeen_cons, passed, outer]; rfl
      obtain ⟨inner, within, keeps⟩ := visibleForestIn_shows children seenHere
        (decides.mono (List.subset_cons_self _ _))
      refine ⟨⟨[⟨e, inner.layers⟩], inner.hidden⟩, ?_, ?_, ?_⟩
      · rw [visibleIn_inside, own, passed, within]
        rfl
      · simp [forestLineages, lineages, keeps.kept, seenHere]
      · simp [lineages, droppedIds, keeps.hidden, not_isDropped_of_isSeen seenHere]
    · -- Nothing below is evaluated, and no lineage below is seen or dropped, as this element is
      -- around it.
      rw [Bool.not_eq_true] at passed
      have unseen : isSeen holds root counts (e :: around) = false := by
        rw [isSeen_cons, passed, Bool.false_and]
      obtain ⟨noneKept, noneReported⟩ := shows_nothing unseen children
      refine ⟨⟨[], [e.id]⟩, ?_, ?_, ?_⟩
      · rw [visibleIn_inside, own, passed]
        rfl
      · simp [forestLineages, lineages, unseen, noneKept]
      · simp only [droppedIds] at noneReported
        simp [lineages, droppedIds, isDropped, passed, outer, noneReported]

theorem visibleForestIn_shows : ∀ (ls : List Layer) {around : Lineage},
    isSeen holds root counts around = true →
    evaluator.Decides holds root counts (forestLineages around ls) →
      ∃ seen, visibleForestIn evaluator ls (inside root counts around) = .ok seen ∧
        Shows holds root counts around (forestLineages around ls) seen
  | [], around => by
    intro _ _
    exact ⟨{}, rfl, rfl, rfl⟩
  | l :: ls, around => by
    intro outer decides
    obtain ⟨first, ofFirst, showsFirst⟩ :=
      visibleIn_shows l outer (decides.mono (List.subset_append_left _ _))
    obtain ⟨rest, ofRest, showsRest⟩ :=
      visibleForestIn_shows ls outer (decides.mono (List.subset_append_right _ _))
    refine ⟨⟨first.layers ++ rest.layers, first.hidden ++ rest.hidden⟩, ?_, ?_, ?_⟩
    · rw [visibleForestIn, ofFirst, ofRest]
      rfl
    · rw [forestLineages_append, showsFirst.kept, showsRest.kept, forestLineages,
        List.filter_append]
    · rw [forestLineages, droppedIds_append, showsFirst.hidden, showsRest.hidden]
end

mutual
theorem visibleIn_given : ∀ (l : Layer) (ctx : Visibility.Context),
    visibleIn (evaluator.given (.ok root) (.ok counts)) l ctx =
      visibleIn evaluator l { ctx with itemValues := ctx.itemValues.or root, counts }
  | ⟨e, children⟩, ctx => by
    have nearest : (e.scope ctx.itemValues).or root = e.scope (ctx.itemValues.or root) := by
      rw [Element.scope, Element.scope]
      cases e.itemValues <;> rfl
    rw [visibleIn, visibleIn]
    simp only [Element.isSeen_given, visibleForestIn_given children, nearest]

theorem visibleForestIn_given : ∀ (ls : List Layer) (ctx : Visibility.Context),
    visibleForestIn (evaluator.given (.ok root) (.ok counts)) ls ctx =
      visibleForestIn evaluator ls { ctx with itemValues := ctx.itemValues.or root, counts }
  | [], ctx => rfl
  | l :: ls, ctx =>
    by rw [visibleForestIn, visibleForestIn, visibleIn_given l, visibleForestIn_given ls]
end

mutual
theorem visibleIn_sublist (around : Lineage) : ∀ (l : Layer) {ctx : Visibility.Context}
    {seen : Visible},
    visibleIn evaluator l ctx = .ok seen →
      (forestLineages around seen.layers).Sublist (lineages around l)
  | ⟨e, children⟩, ctx, seen => by
    intro filtered
    simp only [visibleIn, exceptBind_ok_iff] at filtered
    obtain ⟨passed, _, kept⟩ := filtered
    cases passed with
    | false =>
      simp only [Bool.false_eq_true, ↓reduceIte, exceptPure_ok_iff] at kept
      subst kept
      exact List.nil_sublist _
    | true =>
      simp only [↓reduceIte, exceptBind_ok_iff, exceptPure_ok_iff] at kept
      obtain ⟨inner, within, rfl⟩ := kept
      rw [forestLineages, forestLineages, List.append_nil, lineages, lineages]
      exact (visibleForestIn_sublist _ children within).cons_cons _

theorem visibleForestIn_sublist (around : Lineage) : ∀ (ls : List Layer) {ctx : Visibility.Context}
    {seen : Visible},
    visibleForestIn evaluator ls ctx = .ok seen →
      (forestLineages around seen.layers).Sublist (forestLineages around ls)
  | [], ctx, seen => by
    intro filtered
    simp only [visibleForestIn, Except.ok.injEq] at filtered
    subst filtered
    exact List.Sublist.refl _
  | l :: ls, ctx, seen => by
    intro filtered
    simp only [visibleForestIn, exceptBind_ok_iff, exceptPure_ok_iff] at filtered
    obtain ⟨first, here, rest, others, rfl⟩ := filtered
    rw [forestLineages_append, forestLineages]
    exact (visibleIn_sublist around l here).append (visibleForestIn_sublist around ls others)
end

theorem visibleForest_elements {layers : List Layer} {seen : Visible}
    (filtered : visibleForest evaluator counts layers root = .ok seen) :
    ((preorderForest seen.layers).map (·.toElement)).Sublist
      ((preorderForest layers).map (·.toElement)) := by
  rw [← forestLineages_elements [], ← forestLineages_elements []]
  exact (visibleForestIn_sublist [] layers filtered).filterMap _

end Layer
open Layer

end filter

def titleIs (title : String) : Visibility.Expression :=
  { groups :=
    [{ conditions := [{ operator := "is", fieldId := some "title", value := some title }] }] }

def card (children : List Layer) : Layer where
  id := "card"
  itemValues := some [("title", "Ada")]
  bindings := { visibility := some (titleIs "Ada") }
  children := children

def blank : Layer where
  id := "blank"
  itemValues := some []
  bindings := { visibility := some (titleIs "Ada") }
  children := [{ id := "beneath", bindings := { visibility := some (titleIs "Bob") } }]

end PageLayers
