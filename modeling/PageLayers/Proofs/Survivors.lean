import PageLayers.Proofs.PagePasses
import PageLayers.Proofs.VisibleLineages

/-!
What is left of a resolved tree, with whatever evaluator. A node is left if its expression and those
around it are found to hold, each at the depth at which it lies. The page consists of the nodes that
are left, with its pagination controls patched.
-/

namespace PageLayers

namespace Lineage
variable (evaluator : Visibility.Evaluator) (root : Option Values) (counts : Entries Int)

def stays : Lineage → Bool
  | [] => true
  | e :: around =>
    match e.isSeen evaluator (context root counts (e :: around)) with
    | .ok seen => seen
    | .error _ => false

/-- Whether the innermost element and each one around it are found to be seen. -/
def survives (p : Lineage) : Bool := p.tails.all (stays evaluator root counts)

variable {evaluator root counts}

theorem survives_cons (e : Element) (around : Lineage) :
    survives evaluator root counts (e :: around) =
    (stays evaluator root counts (e :: around) && survives evaluator root counts around) := by
  simp [survives]

theorem survives_of_suffix {around p : Lineage} (longer : around <:+ p)
    (left : survives evaluator root counts p = true) :
    survives evaluator root counts around = true :=
  all_tails_of_suffix longer left

end Lineage

namespace Layer
open Lineage
variable {evaluator : Visibility.Evaluator} {root : Option Values} {counts : Entries Int}

theorem filter_survives_eq_nil {around : Lineage}
    (lost : survives evaluator root counts around = false) (ls : List Layer) :
    (forestLineages around ls).filter (survives evaluator root counts) = [] :=
  filter_all_tails_eq_nil lost ls

mutual
theorem visibleIn_survivors : ∀ (l : Layer) {around : Lineage} {seen : Visible},
    survives evaluator root counts around = true →
      visibleIn evaluator l (inside root counts around) = .ok seen →
      forestLineages around seen.layers = (lineages around l).filter
        (survives evaluator root counts)
  | ⟨e, children⟩, around, seen => by
    intro outer filtered
    rw [visibleIn_inside] at filtered
    obtain ⟨passed, own, kept⟩ := exceptBind_ok_iff.mp filtered
    have here : survives evaluator root counts (e :: around) = passed := by
      rw [survives_cons, stays, own, outer, Bool.and_true]
    cases passed with
    | false =>
      simp only [Bool.false_eq_true, ↓reduceIte, exceptPure_ok_iff] at kept
      subst kept
      simp [forestLineages, lineages, here, filter_survives_eq_nil here children]
    | true =>
      simp only [↓reduceIte, exceptBind_ok_iff, exceptPure_ok_iff] at kept
      obtain ⟨inner, within, rfl⟩ := kept
      simp [forestLineages, lineages, here, visibleForestIn_survivors children here within]

theorem visibleForestIn_survivors : ∀ (ls : List Layer) {around : Lineage} {seen : Visible},
    survives evaluator root counts around = true →
      visibleForestIn evaluator ls (inside root counts around) = .ok seen →
      forestLineages around seen.layers = (forestLineages around ls).filter
        (survives evaluator root counts)
  | [], around, seen => by
    intro _ filtered
    simp only [visibleForestIn, Except.ok.injEq] at filtered
    subst filtered
    rfl
  | l :: ls, around, seen => by
    intro outer filtered
    simp only [visibleForestIn, exceptBind_ok_iff, exceptPure_ok_iff] at filtered
    obtain ⟨first, here, rest, others, rfl⟩ := filtered
    rw [forestLineages_append, visibleIn_survivors l outer here,
      visibleForestIn_survivors ls outer others, forestLineages, List.filter_append]
end

mutual
theorem visibleIn_asks {e : Element} {outer : Lineage}
    (reached : survives evaluator root counts outer = true) :
    ∀ (l : Layer) {around : Lineage} {seen : Visible}, e :: outer ∈ lineages around l →
      visibleIn evaluator l (inside root counts around) = .ok seen →
        ∃ passed, e.isSeen evaluator (context root counts (e :: outer)) = .ok passed
  | ⟨o, children⟩, around, seen => by
    intro member filtered
    rw [visibleIn_inside] at filtered
    obtain ⟨passed, own, kept⟩ := exceptBind_ok_iff.mp filtered
    rcases List.mem_cons.mp member with here | below
    · obtain ⟨rfl, rfl⟩ := List.cons.inj here
      exact ⟨passed, own⟩
    · -- What is looked at within the element was come to through it.
      obtain ⟨_, _, same, longer⟩ := suffix_of_mem_forestLineages children below
      obtain ⟨rfl, rfl⟩ := List.cons.inj same
      have through := survives_of_suffix longer reached
      rw [survives_cons, stays, own, Bool.and_eq_true] at through
      simp only [through.1, ↓reduceIte, exceptBind_ok_iff] at kept
      obtain ⟨_, within, _⟩ := kept
      exact visibleForestIn_asks reached children below within

theorem visibleForestIn_asks {e : Element} {outer : Lineage}
    (reached : survives evaluator root counts outer = true) :
    ∀ (ls : List Layer) {around : Lineage} {seen : Visible}, e :: outer ∈ forestLineages around ls →
      visibleForestIn evaluator ls (inside root counts around) = .ok seen →
        ∃ passed, e.isSeen evaluator (context root counts (e :: outer)) = .ok passed
  | [], around, seen => by
    intro member
    simp [forestLineages] at member
  | l :: ls, around, seen => by
    intro member filtered
    simp only [visibleForestIn, exceptBind_ok_iff] at filtered
    obtain ⟨_, here, _, others, _⟩ := filtered
    rcases List.mem_append.mp member with first | later
    · exact visibleIn_asks reached l first here
    · exact visibleForestIn_asks reached ls later others
end

theorem visibleForest_survivors {layers : List Layer} {seen : Visible}
    (filtered : visibleForest evaluator counts layers root = .ok seen) :
    forestLineages [] seen.layers = (forestLineages [] layers).filter
      (survives evaluator root counts) :=
  visibleForestIn_survivors layers rfl filtered

end Layer

/-- The page is what is left of a tree: the nodes whose lineages pass, with the controls among them
    patched. -/
def ResolvedPage.LeftOf (page : ResolvedPage) (tree : List Layer)
    (passes : Lineage → Bool) : Prop :=
  ∃ seen, Layer.forestLineages [] seen = (Layer.forestLineages [] tree).filter passes ∧
    Pagination.apply page.pagination seen = .ok page.layers

theorem Page.finish_asks {p : Page} {r : Resolver} {values : Option Values} {resolved : List Layer}
    {page : ResolvedPage}
    (finished : p.finish r values resolved = .ok page) {e : Element} {outer : Lineage}
    (member : e :: outer ∈ Layer.forestLineages [] resolved)
    (reached : Lineage.survives r.evaluator values page.counts outer = true) :
    ∃ passed, e.isSeen r.evaluator (Lineage.context values page.counts (e :: outer)) =
      .ok passed := by
  obtain ⟨_, _, filtered, _, _, rfl⟩ := finish_ok_iff.mp finished
  exact Layer.visibleForestIn_asks reached resolved member filtered

/-- A page is what is left of the tree that its resolution comes to. The tree tells its counts and
    its states of pages, before anything is dropped. -/
theorem Page.finish_leaves {p : Page} {r : Resolver} {values : Option Values}
    {resolved : List Layer} {page : ResolvedPage}
    (finished : p.finish r values resolved = .ok page) :
    page.counts = itemCounts resolved ∧ page.pagination = Pagination.collect resolved ∧
      page.LeftOf resolved (Lineage.survives r.evaluator values page.counts) := by
  obtain ⟨seen, layers, filtered, _, patched, rfl⟩ := finish_ok_iff.mp finished
  exact ⟨rfl, rfl, seen.layers, Layer.visibleForest_survivors filtered, patched⟩

end PageLayers
