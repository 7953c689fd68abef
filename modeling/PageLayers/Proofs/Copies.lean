import PageLayers.Proofs.Fragments
import PageLayers.Proofs.Multiplicity
import PageLayers.Proofs.Survivors
import PageLayers.Proofs.Unconditional

/-!
Which nodes of a page are copies of one layer, and when they are left. A layer has a place in the
forest that components were expanded in, and each node of the resolved tree is made of the layer at
some place. What is found out about a node rests on the expressions on the way to that place, on the
counts and on the values in scope. None of these changes with expressions elsewhere.
-/

namespace PageLayers

/-- A node of a resolved tree, with the place of the layer that it is made of. A place tells the
    positions of the layer and of those around it among their siblings, from the outside in. -/
structure Copy where
  place : List Nat
  lineage : Lineage
  deriving DecidableEq, Repr

def Copy.unconditional (c : Copy) : Copy := ⟨c.place, c.lineage.map Element.unconditional⟩

namespace Layer

mutual
/-- The nodes of a resolved layer, with their places. What stands in a fragment are clones of the
    layer in whose place it stands. -/
def copies (place : List Nat) (around : Lineage) : Layer → List Copy
  | ⟨e, children⟩ =>
    ⟨place, e :: around⟩ ::
      forestCopies (if e.isFragment then fun _ => place else fun n => place ++ [n])
        (e :: around) 0 children

def forestCopies (place : Nat → List Nat) (around : Lineage) : Nat → List Layer → List Copy
  | _, [] => []
  | n, l :: ls => copies (place n) around l ++ forestCopies place around (n + 1) ls
end

def allCopies (resolved : List Layer) : List Copy := forestCopies (fun n => [n]) [] 0 resolved

def expressionsTo : List Layer → List Nat → List (Option Visibility.Expression)
  | _, [] => []
  | layers, n :: place =>
    match layers[n]? with
    | none => []
    | some l => l.bindings.visibility :: expressionsTo l.children place

mutual
/-- The second layer is made of the first one, what its expressions are concerned: it is the layer
    with children made of the layer's children, or a fragment with clones of the layer of which each
    is such a layer. -/
def Stems : Layer → Layer → Prop
  | ⟨e, children⟩, d =>
    d.bindings.visibility = e.bindings.visibility ∧
      (d.isFragment = false ∧ StemsForest children d.children ∨
        d.isFragment = true ∧ ∀ clone ∈ d.children, clone.isFragment = false ∧
          clone.bindings.visibility = e.bindings.visibility ∧ StemsForest children clone.children)

def StemsForest : List Layer → List Layer → Prop
  | [], ds => ds = []
  | l :: ls, ds => ∃ d rest, ds = d :: rest ∧ Stems l d ∧ StemsForest ls rest
end

end Layer

def Lineage.Apart (around : Lineage) : Prop := ∀ f ∈ around.head?, f.isFragment = false

/-- The elements of a lineage have the expressions of layers around each other, both from the inside
    out. A fragment and the clone in it have the same one. -/
inductive Lineage.Retells : List (Option Visibility.Expression) → Lineage → Prop
  | nil : Retells [] []
  | next {x : Option Visibility.Expression} {way : List (Option Visibility.Expression)}
      {e : Element} {around : Lineage}
      (own : e.bindings.visibility = x) (apart : around.Apart) (outer : Retells way around) :
      Retells (x :: way) (e :: around)
  | again {x : Option Visibility.Expression} {way : List (Option Visibility.Expression)}
      {e f : Element} {around : Lineage}
      (own : e.bindings.visibility = x) (fragment : f.isFragment = true)
        (outer : Retells (x :: way) (f :: around)) :
      Retells (x :: way) (e :: f :: around)

theorem Element.eq_of_unconditional {e e' : Element} (alike : e.unconditional = e'.unconditional)
    (expression : e.bindings.visibility = e'.bindings.visibility) : e = e' := by
  have put : ∀ o : Element, { o.unconditional with bindings := { o.unconditional.bindings with
      visibility := o.bindings.visibility } } = o := fun o => rfl
  rw [← put e, ← put e', alike, expression]

theorem Lineage.Apart.of_unconditional {p p' : Lineage} (apart : p.Apart)
    (alike : p.map Element.unconditional = p'.map Element.unconditional) : p'.Apart := by
  intro f' first
  cases p' with
  | nil => simp at first
  | cons e' around' =>
    cases p with
    | nil => simp at alike
    | cons e around =>
      rw [List.head?_cons, Option.mem_some_iff] at first
      subst first
      have same : e.unconditional = e'.unconditional := (List.cons.inj alike).1
      have plain : e.unconditional.isFragment = false := apart e rfl
      rw [same] at plain
      exact plain

namespace Lineage.Retells
variable {way : List (Option Visibility.Expression)} {p p' : Lineage}

theorem cons_inv {x : Option Visibility.Expression} {e : Element} {around : Lineage}
    (retells : Retells (x :: way) (e :: around)) :
    e.bindings.visibility = x ∧
      (around.Apart ∧ Retells way around ∨ ¬ around.Apart ∧ Retells (x :: way) around) := by
  cases retells with
  | next own apart outer => exact ⟨own, .inl ⟨apart, outer⟩⟩
  | again own fragment outer =>
    refine ⟨own, .inr ⟨fun apart => ?_, outer⟩⟩
    simp [apart _ rfl] at fragment

/-- The expressions of the layers on the way are all that an expression can change in a lineage. -/
theorem unique (retells : Retells way p) (retells' : Retells way p')
    (alike : p.map Element.unconditional = p'.map Element.unconditional) : p = p' := by
  induction retells generalizing p' with
  | nil =>
    cases p' with
    | nil => rfl
    | cons e' around' => simp at alike
  | next own apart outer ih =>
    cases p' with
    | nil => simp at alike
    | cons e' around' =>
      obtain ⟨here, outside⟩ := List.cons.inj alike
      obtain ⟨expression, ⟨_, outer'⟩ | ⟨fragment, _⟩⟩ := retells'.cons_inv
      · rw [Element.eq_of_unconditional here (own.trans expression.symm), ih outer' outside]
      · exact absurd (apart.of_unconditional outside) fragment
  | @again _ _ _ f _ own fragment outer ih =>
    cases p' with
    | nil => simp at alike
    | cons e' around' =>
      obtain ⟨here, outside⟩ := List.cons.inj alike
      obtain ⟨expression, ⟨apart, _⟩ | ⟨_, outer'⟩⟩ := retells'.cons_inv
      · have plain : f.isFragment = false := apart.of_unconditional outside.symm f rfl
        simp [plain] at fragment
      · rw [Element.eq_of_unconditional here (own.trans expression.symm), ih outer' outside]

end Lineage.Retells

namespace Layer

section stems
variable {filler : Filler} {r : Resolver}

mutual
theorem stems_fill : ∀ (l : Layer) {d d' : Layer}, Stems l d → fill filler d = .ok d' → Stems l d'
  | ⟨e, children⟩, ⟨o, ds⟩, d' => by
    intro stems fills
    cases own : o.hasOwnScope with
    | true =>
      rw [fill_own own, Except.ok.injEq] at fills
      exact fills ▸ stems
    | false =>
      obtain ⟨o', ds', first, rest, rfl⟩ := (fill_ok_iff own).mp fills
      have same := (Element.fill_ok_iff.mp first).2
      obtain ⟨expression, ⟨plain, below⟩ | ⟨fragment, _⟩⟩ := stems
      · exact ⟨same.visibility.trans expression,
          .inl ⟨same.isFragment.trans plain, stemsForest_fill children below rest⟩⟩
      · have bound : o.hasOwnScope = true := by
          simp [Element.hasOwnScope, show o.isFragment = true from fragment]
        simp [own] at bound

theorem stemsForest_fill : ∀ (ls : List Layer) {ds ds' : List Layer}, StemsForest ls ds →
    fillForest filler ds = .ok ds' → StemsForest ls ds'
  | [], ds, ds' => by
    rintro rfl fills
    simp only [fillForest, Except.ok.injEq] at fills
    exact fills.symm
  | l :: ls, ds, ds' => by
    rintro ⟨d, rest, rfl, first, others⟩ fills
    obtain ⟨d', rest', here, further, rfl⟩ := fillForest_cons_ok_iff.mp fills
    exact ⟨d', rest', rfl, stems_fill l first here, stemsForest_fill ls others further⟩
end

mutual
theorem stems_of_resolved : ∀ (l : Layer) {scope : Option Given} {d : Layer},
    (r.resolveLayer l scope).result = .ok d →
    Stems l d
  | ⟨e, children⟩, scope, d => by
    intro resolved
    have inside : ∀ scope ds, (r.resolveForest children scope).result = .ok ds →
      StemsForest children ds :=
      fun scope ds done => stemsForest_of_resolved children done
    obtain ⟨plain, becomes⟩ := Resolver.becomes_of_resolved resolved
    cases becomes with
    | kept ds below => exact ⟨rfl, .inl ⟨plain, inside scope ds below⟩⟩
    | expanded s selection clones _ _ cloned =>
      refine ⟨rfl,
        .inr ⟨by simp [Element.isFragment, Resolver.fragmentElement], fun clone member => ?_⟩⟩
      obtain ⟨item, _, slug, values, ds, below, same, filled⟩ := forall₂_mem_right cloned member
      have copy : (Resolver.cloneElement e item slug values).isFragment = false := plain
      exact ⟨same.isFragment.trans copy, same.visibility,
        stemsForest_fill children (inside _ ds below) filled⟩

theorem stemsForest_of_resolved : ∀ (ls : List Layer) {scope : Option Given} {ds : List Layer},
    (r.resolveForest ls scope).result = .ok ds → StemsForest ls ds
  | [], scope, ds => by
    intro resolved
    simp only [Resolver.resolveForest, Outcome.result_pure, Except.ok.injEq] at resolved
    exact resolved.symm
  | l :: ls, scope, ds => by
    intro resolved
    simp only [Resolver.resolveForest] at resolved
    obtain ⟨⟨d, rest⟩, done, rfl⟩ := Outcome.map_ok_iff.mp resolved
    obtain ⟨first, others⟩ := Outcome.both_ok_iff.mp done
    exact ⟨d, rest, rfl, stems_of_resolved l first, stemsForest_of_resolved ls others⟩
end

end stems

section copies
open Lineage

theorem mem_forestCopies_const {place : List Nat} {around : Lineage} {c : Copy} {ls : List Layer}
    {n : Nat} :
    c ∈ forestCopies (fun _ => place) around n ls ↔ ∃ l ∈ ls, c ∈ copies place around l := by
  induction ls generalizing n with
  | nil => simp [forestCopies]
  | cons l ls ih => simp [forestCopies, ih]

mutual
theorem copies_retell : ∀ (l : Layer) {d : Layer} {place : List Nat} {around : Lineage}
    {way : List (Option Visibility.Expression)} {c : Copy}, Stems l d → around.Apart →
      Retells way around →
      c ∈ copies place around d → ∃ inner, c.place = place ++ inner ∧
        Retells ((expressionsTo l.children inner).reverse ++ l.bindings.visibility :: way) c.lineage
  | ⟨e, children⟩, ⟨o, ds⟩, place, around, way, c => by
    intro stems apart outer member
    obtain ⟨expression, stems⟩ := stems
    have here : Retells (e.bindings.visibility :: way) (o :: around) := .next expression apart outer
    rcases List.mem_cons.mp member with rfl | below
    · exact ⟨[], by simp, by simpa [expressionsTo] using here⟩
    · rcases stems with ⟨plain, inside⟩ | ⟨fragment, clones⟩
      · rw [if_neg (by simpa using plain)] at below
        obtain ⟨i, inner, at_place, retells⟩ :=
          forestCopies_retell children inside (by simpa [Apart] using plain) here below
        exact ⟨i :: inner, by simpa using at_place, retells⟩
      · rw [if_pos fragment] at below
        obtain ⟨⟨u, us⟩, isClone, inClone⟩ := mem_forestCopies_const.mp below
        obtain ⟨plain, same, inside⟩ := clones _ isClone
        have again : Retells (e.bindings.visibility :: way) (u :: o :: around) :=
          .again same fragment here
        rcases List.mem_cons.mp inClone with rfl | deeper
        · exact ⟨[], by simp, by simpa [expressionsTo] using again⟩
        · rw [if_neg (by simpa using plain)] at deeper
          obtain ⟨i, inner, at_place, retells⟩ :=
            forestCopies_retell children inside (by simpa [Apart] using plain) again deeper
          exact ⟨i :: inner, by simpa using at_place, retells⟩

theorem forestCopies_retell : ∀ (ls : List Layer) {ds : List Layer} {place : Nat → List Nat}
    {around : Lineage} {n : Nat}
    {way : List (Option Visibility.Expression)} {c : Copy}, StemsForest ls ds → around.Apart →
      Retells way around →
      c ∈ forestCopies place around n ds → ∃ i inner, c.place = place (n + i) ++ inner ∧
        Retells ((expressionsTo ls (i :: inner)).reverse ++ way) c.lineage
  | [], ds, place, around, n, way, c => by
    rintro rfl _ _ member
    simp [forestCopies] at member
  | l :: ls, ds, place, around, n, way, c => by
    rintro ⟨d, rest, rfl, first, others⟩ apart outer member
    rcases List.mem_append.mp member with here | later
    · obtain ⟨inner, at_place, retells⟩ := copies_retell l first apart outer here
      exact ⟨0, inner, at_place, by simpa [expressionsTo] using retells⟩
    · obtain ⟨i, inner, at_place, retells⟩ := forestCopies_retell ls others apart outer later
      exact ⟨i + 1, inner, by
        rw [at_place, Nat.add_right_comm, Nat.add_assoc], by simpa [expressionsTo] using retells⟩
end

mutual
theorem copies_lineages (place : List Nat) (around : Lineage) : ∀ l : Layer,
    (copies place around l).map (·.lineage) = lineages around l
  | ⟨e, children⟩ => by rw [copies, lineages, List.map_cons, forestCopies_lineages]

theorem forestCopies_lineages (place : Nat → List Nat) (around : Lineage) : ∀ (n : Nat)
    (ls : List Layer),
    (forestCopies place around n ls).map (·.lineage) = forestLineages around ls
  | _, [] => rfl
  | n, l :: ls => by
    rw [forestCopies, forestLineages, List.map_append, copies_lineages, forestCopies_lineages]
end

mutual
theorem copies_unconditional (place : List Nat) (around : Lineage) : ∀ l : Layer,
    copies place (around.map Element.unconditional) l.unconditional = (copies place around l).map
      Copy.unconditional
  | ⟨e, children⟩ => by
    have fragment : e.unconditional.isFragment = e.isFragment := rfl
    rw [unconditional, copies, copies, List.map_cons, ← forestCopies_unconditional, fragment]
    rfl

theorem forestCopies_unconditional (place : Nat → List Nat) (around : Lineage) : ∀ (n : Nat)
    (ls : List Layer),
    forestCopies place (around.map Element.unconditional) n (unconditionalForest ls) =
      (forestCopies place around n ls).map Copy.unconditional
  | _, [] => rfl
  | n, l :: ls => by
    rw [unconditionalForest, forestCopies, forestCopies, List.map_append, copies_unconditional,
      forestCopies_unconditional]
end

end copies

theorem forall₂_getElem? {α β : Type} {R : α → β → Prop} {as : List α} {bs : List β}
    (all : List.Forall₂ R as bs) (n : Nat) :
    as[n]? = none ∧ bs[n]? = none ∨ ∃ a b, as[n]? = some a ∧ bs[n]? = some b ∧ R a b := by
  induction all generalizing n with
  | nil => exact .inl ⟨rfl, rfl⟩
  | @cons a b as bs first _ ih =>
    cases n with
    | zero => exact .inr ⟨a, b, rfl, rfl, first⟩
    | succ n => exact ih n

section fill
variable {filler : Filler}

theorem fill_children {l d : Layer} (fills : fill filler l = .ok d) :
    d.bindings.visibility = l.bindings.visibility ∧
    (d.children = l.children ∨ fillForest filler l.children = .ok d.children) := by
  obtain ⟨e, children⟩ := l
  cases own : e.hasOwnScope with
  | true =>
    rw [fill_own own, Except.ok.injEq] at fills
    subst fills
    exact ⟨rfl, .inl rfl⟩
  | false =>
    obtain ⟨o, ds, first, rest, rfl⟩ := (fill_ok_iff own).mp fills
    exact ⟨(Element.fill_ok_iff.mp first).2.visibility, .inr rest⟩

theorem fillForest_forall₂ {ls ds : List Layer} (fills : fillForest filler ls = .ok ds) :
    List.Forall₂ (fun l d => fill filler l = .ok d) ls ds := by
  induction ls generalizing ds with
  | nil =>
    simp only [fillForest, Except.ok.injEq] at fills
    exact fills ▸ .nil
  | cons l ls ih =>
    obtain ⟨d, rest, first, others, rfl⟩ := fillForest_cons_ok_iff.mp fills
    exact .cons first (ih others)

theorem expressionsTo_fillForest {ls ds : List Layer} (fills : fillForest filler ls = .ok ds)
    (place : List Nat) : expressionsTo ds place = expressionsTo ls place := by
  induction place generalizing ls ds with
  | nil => rfl
  | cons n place ih =>
    rcases forall₂_getElem? (fillForest_forall₂ fills) n
      with ⟨none, none'⟩ | ⟨l, d, found, found', filled⟩
    · simp only [expressionsTo, none, none']
    · obtain ⟨same, unfilled | below⟩ := fill_children filled
      · simp only [expressionsTo, found, found', same, unfilled]
      · simp only [expressionsTo, found, found', same, ih below]

end fill

end Layer
open Layer

section page
variable {p p' : Page} {r : Resolver} {values : Option Values}
    {resolved resolved' expanded expanded' : List Layer}

theorem Page.copies_retell (expands : Component.expand p.components p.layers = .ok expanded)
    (resolves : p.ResolvesTo r values resolved) {c : Copy} (member : c ∈ allCopies resolved) :
    Lineage.Retells (expressionsTo expanded c.place).reverse c.lineage := by
  obtain ⟨_, tree, expands', _, injected, done⟩ := resolves
  rw [expands, Except.ok.injEq] at expands'
  subst expands'
  have apart : Lineage.Apart [] := by simp [Lineage.Apart]
  obtain ⟨i, inner, at_place, retells⟩ :=
    forestCopies_retell tree (stemsForest_of_resolved tree done) apart .nil member
  have same : expressionsTo tree c.place = expressionsTo expanded c.place := by
    cases values with
    | none =>
      rw [injectPageItem, Except.ok.injEq] at injected
      rw [injected]
    | some values =>
      exact expressionsTo_fillForest (fillFittingForest_eq_ok_iff.mp injected).1 c.place
  rw [← same, at_place]
  simpa using retells

theorem Page.copies_alike (alike : p.unconditional = p'.unconditional)
    (expands : Component.expand p.components p.layers = .ok expanded)
    (expands' : Component.expand p'.components p'.layers = .ok expanded')
    (resolves : p.ResolvesTo r values resolved) (resolves' : p'.ResolvesTo r values resolved') :
    List.Forall₂ (fun c c' => c.place = c'.place ∧
      (expressionsTo expanded c.place = expressionsTo expanded' c.place → c.lineage = c'.lineage))
      (allCopies resolved) (allCopies resolved') := by
  have same :
      (allCopies resolved).map Copy.unconditional = (allCopies resolved').map
        Copy.unconditional := by
    unfold allCopies
    rw [← forestCopies_unconditional, ← forestCopies_unconditional,
      (Page.resolved_alike alike resolves resolves').2]
  have pairs : List.Forall₂ (fun c c' => c.unconditional = c'.unconditional) (allCopies resolved)
      (allCopies resolved') := by
    rw [← List.forall₂_eq_eq_eq, List.forall₂_map_left_iff, List.forall₂_map_right_iff] at same
    exact same
  have told :=
    (List.forall₂_and_left _ _).mpr
      ⟨fun _ member => Page.copies_retell expands resolves member, pairs⟩
  have both :=
    (List.forall₂_and_left _ _).mpr ⟨fun _ member => Page.copies_retell expands' resolves' member,
      told.flip⟩
  refine both.flip.imp fun c c' ⟨retells', retells, equal⟩ => ?_
  have place : c.place = c'.place := (congrArg Copy.place equal :)
  refine ⟨place, fun way => ?_⟩
  rw [← place, ← way] at retells'
  exact retells.unique retells' (congrArg Copy.lineage equal :)

end page

/-- What an expression decides is its own layer and what lies within it, and nothing else. Let two
    pages differ in the expressions of their layers only, and both be resolved with the same source,
    settings, evaluator and pages. They have the same counts of items and the same states of pages.
    Both consist of what is left of a tree before anything is dropped. All nodes of the two trees
    are copies of layers, of the same ones in the same order, and of those of a layer whose own
    expression and those around it are the same on both pages, the same ones are left. -/
theorem expressions_hide_nothing_elsewhere (r : Resolver) (p p' : Page)
    (alike : p.unconditional = p'.unconditional)
    {page page' : ResolvedPage} (done : (p.resolve r).result = .ok page)
    (done' : (p'.resolve r).result = .ok page') :
    page.counts = page'.counts ∧ page.pagination = page'.pagination ∧
    ∃ expanded expanded' values resolved resolved',
      Component.expand p.components p.layers = .ok expanded ∧
      Component.expand p'.components p'.layers = .ok expanded' ∧
      p.ResolvesTo r values resolved ∧ p'.ResolvesTo r values resolved' ∧
      page.LeftOf resolved (Lineage.survives r.evaluator values page.counts) ∧
      page'.LeftOf resolved' (Lineage.survives r.evaluator values page'.counts) ∧
      (allCopies resolved).map (·.lineage) = forestLineages [] resolved ∧
      (allCopies resolved').map (·.lineage) = forestLineages [] resolved' ∧
      List.Forall₂ (fun c c' => c.place = c'.place ∧
        (expressionsTo expanded c.place = expressionsTo expanded' c.place →
          Lineage.survives r.evaluator values page.counts c.lineage =
            Lineage.survives r.evaluator values page'.counts c'.lineage))
        (allCopies resolved) (allCopies resolved') := by
  obtain ⟨values, resolved, resolves, finished⟩ := Page.resolve_ok_iff.mp done
  obtain ⟨values', resolved', resolves', finished'⟩ := Page.resolve_ok_iff.mp done'
  obtain ⟨rfl, trees⟩ := Page.resolved_alike alike resolves resolves'
  obtain ⟨counts, states, left⟩ := Page.finish_leaves finished
  obtain ⟨counts', states', left'⟩ := Page.finish_leaves finished'
  have sameCounts : page.counts = page'.counts := by
    rw [counts, counts', ← itemCounts_unconditional resolved, trees, itemCounts_unconditional]
  have sameStates : page.pagination = page'.pagination := by
    rw [states, states', ← collect_unconditional resolved, trees, collect_unconditional]
  have ⟨expanded, _, expands, _⟩ := resolves
  have ⟨expanded', _, expands', _⟩ := resolves'
  refine ⟨sameCounts, sameStates, expanded, expanded', values, resolved, resolved', expands,
    expands', resolves, resolves', left,
    left', forestCopies_lineages _ _ _ _, forestCopies_lineages _ _ _ _, ?_⟩
  refine (Page.copies_alike alike expands expands' resolves resolves').imp fun c c' copies =>
    ⟨copies.1, fun same => ?_⟩
  rw [copies.2 same, sameCounts]

def albumShelf (x : Option Visibility.Expression) : Page where
  layers := [
    { id := "albums"
      bindings := {
        collection :=
          some { id := "albums", pagination := some { enabled := true, itemsPerPage := some 1 } }
        visibility := x } },
    { id := "line"
      bindings := {
        visibility := some { groups := [{ conditions := [
          { source := .pageCollection, collectionLayerId := some "albums", operator :=
            "has_items" }] }] } } }]

def shownShelf (x : Option Visibility.Expression) : ResolvedPage :=
  ((albumShelf x).resolve { source := albums.plainSource }).result.toOption.getD {}

theorem hidden_albums_are_counted :
    (albumShelf none).unconditional = (albumShelf (some (titleIs "Live"))).unconditional ∧
      (shownShelf none).counts = (shownShelf (some (titleIs "Live"))).counts ∧
      (shownShelf none).pagination = (shownShelf (some (titleIs "Live"))).pagination ∧
      (shownShelf none).layers.map (·.id) = ["albums-fragment", "line"] ∧
      (shownShelf (some (titleIs "Live"))).layers.map (·.id) = ["line"] := by
  have without : ((albumShelf none).resolve { source := albums.plainSource }).result =
    .ok (shownShelf none) := by
    decide +kernel
  have hidden :
    ((albumShelf (some (titleIs "Live"))).resolve { source := albums.plainSource }).result =
      .ok (shownShelf (some (titleIs "Live"))) := by
    decide +kernel
  have alike :
    (albumShelf none).unconditional = (albumShelf (some (titleIs "Live"))).unconditional := rfl
  obtain ⟨counts, states, _⟩ := expressions_hide_nothing_elsewhere _ _ _ alike without hidden
  exact ⟨alike, counts, states, by decide +kernel⟩

end PageLayers
