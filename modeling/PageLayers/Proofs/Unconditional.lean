import PageLayers.Proofs.Journal
import PageLayers.Proofs.PagePasses

/-!
Pages without the expressions of their layers. No pass before the filter reads an expression: each
makes of layers without expressions what it makes of the layers, without their expressions. So pages
that differ in nothing else come to the same counts of items and the same states of pages.
-/

namespace PageLayers

def Element.unconditional (e : Element) :
    Element := { e with bindings := { e.bindings with visibility := none } }

namespace Layer

mutual
def unconditional : Layer → Layer
  | ⟨e, children⟩ => ⟨e.unconditional, unconditionalForest children⟩

def unconditionalForest : List Layer → List Layer
  | [] => []
  | l :: ls => unconditional l :: unconditionalForest ls
end

end Layer

def Component.unconditional (c : Component) : Component :=
  { c with layers := Layer.unconditionalForest c.layers }

def Page.unconditional (p : Page) : Page :=
  { p with layers := Layer.unconditionalForest p.layers, components :=
    p.components.map Component.unconditional }

section except
variable {α β γ δ : Type}

theorem exceptMap_bind (f : β → γ) (x : Except Failure α) (next : α → Except Failure β) :
    f <$> (x >>= next) = x >>= fun a => f <$> next a := by
  cases x <;> rfl

theorem exceptBind_map (f : α → β) (x : Except Failure α) (next : β → Except Failure γ) :
    (f <$> x) >>= next = x >>= fun a => next (f a) := by
  cases x <;> rfl

theorem exceptBind_assoc (x : Except Failure α) (next : α → Except Failure β)
    (further : β → Except Failure γ) :
    x >>= next >>= further = x >>= fun a => next a >>= further := by
  cases x <;> rfl

end except

namespace Outcome
variable {α β γ δ : Type}

theorem map_eq (f : α → β) (o : Outcome α) : f <$> o = ⟨f <$> o.result, o.journal⟩ := by
  change andThen o (fun a => pure (f a)) = _
  unfold andThen
  cases o.result with
  | error cause => rfl
  | ok a => exact congrArg (Outcome.mk _) (Journal.append_empty _)

theorem ofResult_map (f : α → β) (x : Except Failure α) : ofResult (f <$> x) = f <$>
    ofResult x := by
  rw [map_eq]
  rfl

theorem both_map (f : α → γ) (g : β → δ) (o : Outcome α) (p : Outcome β) :
    both (f <$> o) (g <$> p) = (fun x => (f x.1, g x.2)) <$> both o p := by
  simp only [map_eq, both]
  cases o.result <;> cases p.result <;> rfl

theorem all_map (f : α → β) (os : List (Outcome α)) : all (os.map (f <$> ·)) = List.map f <$>
    all os := by
  induction os with
  | nil => rfl
  | cons o os ih =>
    simp only [List.map_cons, all, ih, both_map, Functor.map_map]

theorem orElse_map (f : α → β) (o : Outcome α) (recover : Failure → Outcome α) :
    (f <$> o).orElse (fun cause => f <$> recover cause) = f <$> o.orElse recover := by
  simp only [map_eq, orElse]
  cases done : o.result with
  | ok a => simp [done]
  | error cause => cases violation : cause.isViolation <;> simp [done, violation]

end Outcome

namespace Layer

theorem unconditionalForest_eq_map (ls : List Layer) :
    unconditionalForest ls = ls.map unconditional := by
  induction ls with
  | nil => rfl
  | cons l ls ih => rw [unconditionalForest, ih, List.map_cons]

end Layer

theorem Element.fill_unconditional (filler : Filler) (e : Element) :
    e.unconditional.fill filler = Element.unconditional <$> e.fill filler := by
  simp only [Element.fill, Bindings.fill, exceptMap_bind, exceptBind_assoc]
  rfl

namespace Layer
variable {filler : Filler}

mutual
theorem fill_unconditional : ∀ l : Layer, fill filler l.unconditional = unconditional <$>
    fill filler l
  | ⟨e, children⟩ => by
    have own : e.unconditional.hasOwnScope = e.hasOwnScope := rfl
    rw [unconditional, fill, fill, own]
    cases e.hasOwnScope with
    | true => rfl
    | false =>
      simp only [Bool.false_eq_true, ↓reduceIte, Element.fill_unconditional, exceptBind_map,
        fillForest_unconditional children, exceptMap_bind]
      rfl

theorem fillForest_unconditional : ∀ ls : List Layer,
    fillForest filler (unconditionalForest ls) = unconditionalForest <$> fillForest filler ls
  | [] => rfl
  | l :: ls => by
    simp only [unconditionalForest, fillForest, fill_unconditional l, fillForest_unconditional ls,
      exceptBind_map, exceptMap_bind]
    rfl
end

mutual
theorem tokensFit_unconditional : ∀ (l : Layer) (room : Nat), tokensFit room l.unconditional =
    tokensFit room l
  | ⟨e, children⟩, room => by
    have own : e.unconditional.hasOwnScope = e.hasOwnScope := rfl
    have fit : e.unconditional.bindings.tokensFit room = e.bindings.tokensFit room := rfl
    rw [unconditional, tokensFit, tokensFit, own, fit, forestTokensFit_unconditional children]

theorem forestTokensFit_unconditional : ∀ (ls : List Layer) (room : Nat),
    forestTokensFit room (unconditionalForest ls) = forestTokensFit room ls
  | [], _ => rfl
  | l :: ls, room => by
    rw [unconditionalForest, forestTokensFit, forestTokensFit, tokensFit_unconditional l,
      forestTokensFit_unconditional ls]
end

theorem fillFitting_unconditional (filler : Filler) (l : Layer) :
    fillFitting filler l.unconditional = unconditional <$> fillFitting filler l := by
  simp only [fillFitting, fill_unconditional, tokensFit_unconditional, exceptBind_map,
    exceptMap_bind]
  cases tokensFit tokenRoom l <;> rfl

theorem fillFittingForest_unconditional (filler : Filler) (ls : List Layer) :
    fillFittingForest filler (unconditionalForest ls) = unconditionalForest <$>
      fillFittingForest filler ls := by
  simp only [fillFittingForest, fillForest_unconditional, forestTokensFit_unconditional,
    exceptBind_map, exceptMap_bind]
  cases forestTokensFit tokenRoom ls <;> rfl

end Layer

namespace Component
variable {known : List Component}

theorem ofInstance?_unconditional (e : Element) :
    ofInstance? (known.map unconditional) e.unconditional = (ofInstance? known e).map
      unconditional := by
  unfold ofInstance?
  have same : e.unconditional.componentId = e.componentId := rfl
  rw [same]
  cases e.componentId with
  | none => rfl
  | some id =>
    by_cases blank : id = ""
    · simp [blank]
    · simp only [blank, ↓reduceIte, ← List.map_reverse, List.find?_map]
      rfl

theorem mapM_unconditional {f f' : Layer → Except Failure Layer}
    (same : ∀ l, f' l.unconditional = Layer.unconditional <$> f l) (ls : List Layer) :
    (Layer.unconditionalForest ls).mapM f' = Layer.unconditionalForest <$> ls.mapM f := by
  induction ls with
  | nil => rfl
  | cons l ls ih =>
    simp only [Layer.unconditionalForest, List.mapM_cons, same, ih, exceptBind_map, exceptMap_bind]
    rfl

theorem expandLayer_unconditional (room : Nat) (chain : List String) (l : Layer) :
    expandLayer (known.map unconditional) room chain l.unconditional =
      Layer.unconditional <$> expandLayer known room chain l := by
  induction room generalizing chain l with
  | zero => rfl
  | succ room ih =>
    obtain ⟨e, children⟩ := l
    rw [Layer.unconditional, expandLayer, expandLayer, ofInstance?_unconditional]
    cases ofInstance? known e with
    | some c =>
      by_cases again : chain.contains c.id = true
      · simp only [Option.map_some, unconditional, again, ↓reduceIte]
        rfl
      · simp only [Option.map_some, unconditional, again, Bool.false_eq_true, ↓reduceIte,
          mapM_unconditional (ih _), exceptBind_map, exceptMap_bind]
        rfl
    | none =>
      simp only [Option.map_none, mapM_unconditional (ih _), exceptBind_map, exceptMap_bind]
      rfl

theorem expand_unconditional (layers : List Layer) :
    expand (known.map unconditional) (Layer.unconditionalForest layers) =
      Layer.unconditionalForest <$> expand known layers := by
  unfold expand
  rw [List.isEmpty_map]
  split
  · rfl
  · exact mapM_unconditional (expandLayer_unconditional _ _) layers

end Component

theorem injectPageItem_unconditional (values : Option Values) (layers : List Layer) :
    injectPageItem values (Layer.unconditionalForest layers) =
      Layer.unconditionalForest <$> injectPageItem values layers := by
  cases values with
  | none => rfl
  | some values => exact Layer.fillFittingForest_unconditional _ layers

namespace Resolver
variable {r : Resolver} {e : Element} {inner inner' : Option Given → Outcome (List Layer)}

theorem keepLayer_unconditional
    (same : ∀ scope, inner' scope = Layer.unconditionalForest <$> inner scope)
    (scope : Option Given) : keepLayer e.unconditional inner' scope = Layer.unconditional <$>
      keepLayer e inner scope := by
  simp only [keepLayer, same, Functor.map_map]
  rfl

theorem clone_unconditional
    (same : ∀ scope, inner' scope = Layer.unconditionalForest <$> inner scope)
    (fields : List Field) (item : Item) :
    r.clone e.unconditional inner' fields item = Layer.unconditional <$>
      r.clone e inner fields item := by
  simp only [clone, same, bind_map_left, map_bind, ← Outcome.ofResult_map]
  refine bind_congr fun ds => bind_congr fun values => ?_
  exact congrArg Outcome.ofResult
    (Layer.fillFitting_unconditional _ ⟨cloneElement e item _ values, ds⟩)

theorem expandBinding_unconditional
    (same : ∀ scope, inner' scope = Layer.unconditionalForest <$> inner scope)
    (s : CollectionSource) (scope : Option Given) :
    r.expandBinding e.unconditional s inner' scope = Layer.unconditional <$>
      r.expandBinding e s inner scope := by
  simp only [expandBinding, map_bind]
  refine bind_congr fun selection => ?_
  have clones : selection.items.map (r.clone e.unconditional inner' selection.fields) =
      (selection.items.map (r.clone e inner selection.fields)).map (Layer.unconditional <$> ·) := by
    rw [List.map_map]
    exact List.map_congr_left fun item _ => clone_unconditional same selection.fields item
  rw [clones, Outcome.all_map, bind_map_left]
  refine bind_congr fun clones => bind_congr fun page => ?_
  rw [map_pure, Layer.unconditional, Layer.unconditionalForest_eq_map]
  rfl

theorem resolveElement_unconditional
    (same : ∀ scope, inner' scope = Layer.unconditionalForest <$> inner scope)
    (scope : Option Given) :
    r.resolveElement e.unconditional inner' scope = Layer.unconditional <$>
      r.resolveElement e inner scope := by
  have fragment : e.unconditional.isFragment = e.isFragment := rfl
  have binding : e.unconditional.binding? = e.binding? := rfl
  unfold resolveElement
  rw [fragment, binding]
  cases e.isFragment with
  | true => rfl
  | false =>
    simp only [Bool.false_eq_true, ↓reduceIte]
    cases e.binding? with
    | none => exact keepLayer_unconditional same scope
    | some s =>
      simp only [expandBinding_unconditional same, keepLayer_unconditional same,
        ← Outcome.orElse_map, map_bind]
      rfl

mutual
theorem resolveLayer_unconditional : ∀ (l : Layer) (scope : Option Given),
    r.resolveLayer l.unconditional scope = Layer.unconditional <$> r.resolveLayer l scope
  | ⟨e, children⟩, scope => by
    rw [Layer.unconditional, resolveLayer, resolveLayer]
    exact resolveElement_unconditional (resolveForest_unconditional children) scope

theorem resolveForest_unconditional : ∀ (ls : List Layer) (scope : Option Given),
    r.resolveForest (Layer.unconditionalForest ls) scope = Layer.unconditionalForest <$>
      r.resolveForest ls scope
  | [], _ => rfl
  | l :: ls, scope => by
    simp only [Layer.unconditionalForest, resolveForest, resolveLayer_unconditional l,
      resolveForest_unconditional ls, Outcome.both_map, Functor.map_map]
end

end Resolver

namespace Layer

mutual
theorem preorder_unconditional : ∀ l :
    Layer, preorder l.unconditional = (preorder l).map unconditional
  | ⟨e, children⟩ => by
    rw [unconditional, preorder, preorder, preorderForest_unconditional children]
    rfl

theorem preorderForest_unconditional : ∀ ls : List Layer,
    preorderForest (unconditionalForest ls) = (preorderForest ls).map unconditional
  | [] => rfl
  | l :: ls => by
    rw [unconditionalForest, preorderForest, preorderForest, preorder_unconditional l,
      preorderForest_unconditional ls, List.map_append]
end

theorem length_unconditionalForest (ls : List Layer) : (unconditionalForest ls).length =
    ls.length := by
  rw [unconditionalForest_eq_map, List.length_map]

end Layer

theorem itemCounts_unconditional (layers : List Layer) :
    itemCounts (Layer.unconditionalForest layers) = itemCounts layers := by
  unfold itemCounts
  have fragment : (fun f : Layer => f.isFragment) ∘ Layer.unconditional = fun f => f.isFragment :=
    funext fun ⟨_, _⟩ => rfl
  rw [Layer.preorderForest_unconditional, List.filter_map, List.map_map, fragment]
  refine congrArg Entries.ofList (List.map_congr_left fun f _ => ?_)
  obtain ⟨e, children⟩ := f
  simp only [Function.comp, Layer.unconditional, Layer.length_unconditionalForest]
  rfl

theorem collect_unconditional (layers : List Layer) :
    Pagination.collect (Layer.unconditionalForest layers) = Pagination.collect layers := by
  unfold Pagination.collect
  rw [Layer.preorderForest_unconditional, List.filterMap_map]
  refine congrArg Entries.ofList (List.filterMap_congr fun l _ => ?_)
  obtain ⟨e, children⟩ := l
  rfl

theorem eq_of_map_eq {α β : Type} {f : α → β} {x y : Except Failure α} (same : f <$> x = f <$> y)
    {a b : α} (first : x = .ok a) (second : y = .ok b) : f a = f b := by
  subst first second
  exact Except.ok.inj same

section alike
variable {p p' : Page} {r : Resolver} (alike : p.unconditional = p'.unconditional)
include alike

theorem Page.expanded_alike {expanded expanded' : List Layer}
    (expands : Component.expand p.components p.layers = .ok expanded)
    (expands' : Component.expand p'.components p'.layers = .ok expanded') :
    Layer.unconditionalForest expanded = Layer.unconditionalForest expanded' := by
  have layers : Layer.unconditionalForest p.layers = Layer.unconditionalForest p'.layers :=
    congrArg Page.layers alike
  have components : p.components.map Component.unconditional =
    p'.components.map Component.unconditional :=
    congrArg Page.components alike
  refine eq_of_map_eq ?_ expands expands'
  rw [← Component.expand_unconditional, ← Component.expand_unconditional, layers, components]

theorem Page.itemValues_alike : p.itemValues r = p'.itemValues r := by
  have item : p.item = p'.item := (congrArg Page.item alike :)
  have fields : p.fields = p'.fields := (congrArg Page.fields alike :)
  unfold Page.itemValues
  rw [item, fields]

/-- They come to trees that differ in expressions only, with the same values in scope. -/
theorem Page.resolved_alike {values values' : Option Values} {resolved resolved' : List Layer}
    (resolves : p.ResolvesTo r values resolved) (resolves' : p'.ResolvesTo r values' resolved') :
    values = values' ∧
    Layer.unconditionalForest resolved = Layer.unconditionalForest resolved' := by
  obtain ⟨expanded, tree, expands, read, injected, done⟩ := resolves
  obtain ⟨expanded', tree', expands', read', injected', done'⟩ := resolves'
  rw [Page.itemValues_alike alike, read', Except.ok.injEq] at read
  subst read
  have trees : Layer.unconditionalForest tree = Layer.unconditionalForest tree' := by
    refine eq_of_map_eq ?_ injected injected'
    rw [← injectPageItem_unconditional, ← injectPageItem_unconditional,
      Page.expanded_alike alike expands expands']
  refine ⟨rfl, eq_of_map_eq ?_ done done'⟩
  rw [← Outcome.result_map, ← Outcome.result_map, ← Resolver.resolveForest_unconditional,
    ← Resolver.resolveForest_unconditional, trees]

end alike
end PageLayers
