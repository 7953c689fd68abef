import PageLayers.Proofs.Fragments
import PageLayers.Proofs.ListVisibility
import PageLayers.Proofs.PaginationControls

/-!
The index of the slugs of items on a resolved page. It is made of what is left in the end: of clones
that no condition hides, the last one of an item that has a slug counts, and the slug of the page's
own item comes before any of these.
-/

namespace PageLayers
open Layer

def FirstKeyed (fields : List Field) (key : String) (f : Field) : Prop :=
  ∃ before after, fields = before ++ f :: after ∧ f.key = some key ∧ ∀ g ∈ before, g.key ≠ some key

structure Item.HasSlug (item : Item) (fields : List Field) (key slug : String) : Prop where
  value : ∃ f, FirstKeyed fields key f ∧ item.values.lookup f.id = some slug
  nonempty : slug ≠ ""

def Page.OwnSlug (p : Page) (key id slug : String) : Prop :=
  ∃ item, p.item = some item ∧ item.id = id ∧ item.HasSlug p.fields key slug

/-- The element was made of one of the layers, as a clone for an item that the binding of the layer
    shows. It is stamped with the item's slug among the fields of the collection that the layer is
    bound to. -/
structure Resolver.CloneFor (r : Resolver) (layers : List Layer) (item : Item) (fields : List Field)
    (o : Element) : Prop where
  itemId : o.itemId = some item.id
  slug : ∀ slug, o.itemSlug = some slug ↔ item.HasSlug fields r.settings.slugFieldKey slug
  bound : ∃ l ∈ preorderForest layers, ∃ s scope selection, l.binding? = some s ∧
    o.id = cloneId l.id item.id ∧
    (r.select l.id s scope).result = .ok selection ∧ item ∈ selection.items ∧
    (r.source.fields s.id r.variant).result = .ok fields

theorem fieldOfKey?_eq_some_iff {key : String} {fields : List Field} {f : Field} :
    fieldOfKey? key fields = some f ↔ FirstKeyed fields key f := by
  rw [fieldOfKey?, List.find?_eq_some_iff_append]
  constructor
  · rintro ⟨keyed, before, after, split, others⟩
    exact ⟨before, after, split, by
      simpa using keyed, fun g member => by simpa using others g member⟩
  · rintro ⟨before, after, split, keyed, others⟩
    exact ⟨by
      simpa using keyed, before, after, split, fun g member => by simpa using others g member⟩

namespace Item
variable {item : Item} {fields : List Field} {key slug : String}

theorem slug?_eq_some_iff : item.slug? fields key = some slug ↔ item.HasSlug fields key slug := by
  unfold slug?
  constructor
  · intro own
    split at own
    · rename_i f found
      obtain ⟨value, nonempty⟩ := Option.filter_eq_some_iff.mp own
      exact ⟨⟨f, fieldOfKey?_eq_some_iff.mp found, value⟩, by simpa using nonempty⟩
    · cases own
  · rintro ⟨⟨f, first, value⟩, nonempty⟩
    rw [fieldOfKey?_eq_some_iff.mpr first]
    exact Option.filter_eq_some_iff.mpr ⟨value, by simpa using nonempty⟩

end Item

section index
variable {layers : List Layer} {id slug : String}

theorem Element.stampedSlug?_eq_some_iff {e : Element} : e.stampedSlug? = some (id, slug) ↔
    e.itemId = some id ∧ e.itemSlug = some slug ∧ id ≠ "" ∧ slug ≠ "" := by
  unfold stampedSlug?
  split
  · rename_i hasId hasSlug
    rw [hasId, hasSlug, Option.ite_none_left_eq_some]
    constructor
    · rintro ⟨present, same⟩
      cases same
      simpa using present
    · rintro ⟨⟨⟩, ⟨⟩, present⟩
      exact ⟨by simpa using present, rfl⟩
  · rename_i missing
    simp only [reduceCtorEq, false_iff]
    rintro ⟨hasId, hasSlug, -⟩
    exact missing id slug hasId hasSlug

theorem lookup_itemSlugs_eq_some_iff : (itemSlugs layers).lookup id = some slug ↔
    ∃ before c after, preorderForest layers = before ++ c :: after ∧
      c.stampedSlug? = some (id, slug) ∧
      ∀ l ∈ after, ∀ other, l.stampedSlug? ≠ some (id, other) :=
  Entries.lookup_ofList_filterMap_eq_some_iff

theorem isSome_lookup_itemSlugs (present : id ≠ "") : ((itemSlugs layers).lookup id).isSome ↔
    ∃ c ∈ preorderForest layers, c.itemId = some id ∧ ∃ slug, c.itemSlug = some slug ∧
      slug ≠ "" := by
  rw [itemSlugs, Entries.isSome_lookup_ofList_filterMap]
  simp only [Element.stampedSlug?_eq_some_iff, present, ne_eq, not_false_eq_true, true_and,
    exists_and_left]

variable {p : Page} {settings : Settings} {slugs : Entries String}

theorem Page.lookup_addSlug_of_own (own : p.OwnSlug settings.slugFieldKey id slug) :
    (p.addSlug settings slugs).lookup id = some slug := by
  obtain ⟨item, shown, rfl, has⟩ := own
  simp [addSlug, shown, Item.slug?_eq_some_iff.mpr has, Entries.lookup_put]

theorem Page.lookup_addSlug_of_not_own
    (foreign : ∀ slug, ¬p.OwnSlug settings.slugFieldKey id slug) :
    (p.addSlug settings slugs).lookup id = slugs.lookup id := by
  unfold addSlug
  split
  · rfl
  · rename_i item shown
    split
    · rename_i slug has
      have other : id ≠ item.id := by
        rintro rfl
        exact foreign slug ⟨item, shown, rfl, Item.slug?_eq_some_iff.mp has⟩
      rw [Entries.lookup_put, if_neg other]
    · rfl

end index

def Element.stamp (e : Element) : String × Option String × Option String :=
  (e.id, e.itemId, e.itemSlug)

theorem Element.SameButSlots.stamp {e o : Element} (same : e.SameButSlots o) : o.stamp = e.stamp :=
  congrArg (·.stamp) same

theorem Pagination.PatchedNode.stamp {states : Entries Meta} {before after : Lineage}
    (patched : PatchedNode states before after) :
    after.head?.map (·.stamp) = before.head?.map (·.stamp) := by
  cases patched with
  | outside => rfl
  | inside _ _ shows =>
    simp only [List.head?_cons, Option.map_some]
    rw [shows.rest]
    rfl

namespace Resolver
variable {r : Resolver} {layers : List Layer} {e o : Element}

/-- An element that is stamped with an item is a clone for that item. -/
def StampOfClone (r : Resolver) (layers : List Layer) (o : Element) : Prop :=
  ∀ id, o.itemId = some id → ∃ item fields, item.id = id ∧ r.CloneFor layers item fields o

theorem StampOfClone.congr (held : r.StampOfClone layers e) (same : o.stamp = e.stamp) :
    r.StampOfClone layers o := by
  simp only [Element.stamp, Prod.mk.injEq] at same
  obtain ⟨sameId, sameItem, sameSlug⟩ := same
  intro id stamped
  obtain ⟨item, fields, own, made⟩ := held id (sameItem ▸ stamped)
  exact ⟨item, fields, own, sameItem ▸ made.itemId, sameSlug ▸ made.slug, sameId ▸ made.bound⟩

/-- Where only clones are stamped, the slug of an item is that of its last clone with one. -/
theorem exists_last_clone {shown : List Layer} {id slug : String}
    (clones : ∀ c ∈ preorderForest shown, r.StampOfClone layers c.toElement)
    (found : (itemSlugs shown).lookup id = some slug) :
    ∃ before c after item fields, preorderForest shown = before ++ c :: after ∧ item.id = id ∧
      r.CloneFor layers item fields c.toElement ∧ c.itemSlug = some slug ∧
      item.HasSlug fields r.settings.slugFieldKey slug ∧ ∀ l ∈ after, l.itemId = some id →
        l.itemSlug = none := by
  obtain ⟨before, c, after, split, stamped, others⟩ := lookup_itemSlugs_eq_some_iff.mp found
  obtain ⟨hasId, hasSlug, present, _⟩ := Element.stampedSlug?_eq_some_iff.mp stamped
  obtain ⟨item, fields, own, made⟩ := clones c (by simp [split]) id hasId
  refine ⟨before, c, after, item, fields, split, own, made, hasSlug, (made.slug slug).mp hasSlug,
    fun l later ofItem => ?_⟩
  by_contra stampedToo
  obtain ⟨other, hasOther⟩ := Option.ne_none_iff_exists'.mp stampedToo
  obtain ⟨_, _, _, madeToo⟩ := clones l (by simp [split, later]) id ofItem
  have nonempty : other ≠ "" := ((madeToo.slug other).mp hasOther).nonempty
  exact others l later other
    (Element.stampedSlug?_eq_some_iff.mpr ⟨ofItem, hasOther, present, nonempty⟩)

theorem makes_stamps (r : Resolver) (layers : List Layer) :
    r.Makes (fun e => e.itemId = none ∧ ∃ l ∈ preorderForest layers, l.id = e.id ∧
      l.binding? = e.binding?)
      (r.StampOfClone layers) where
  kept e := by
    rintro ⟨bare, _⟩ id stamped
    rw [bare] at stamped
    cases stamped
  fragment e pagination := by
    rintro ⟨bare, _⟩ id stamped
    rw [show (fragmentElement e pagination).itemId = none from bare] at stamped
    cases stamped
  clone := by
    rintro e s scope selection item values ⟨_, l, member, own, bound⟩ binding selected shown
      id stamped
    refine ⟨item, selection.fields, Option.some.inj stamped, rfl, fun slug =>
      Item.slug?_eq_some_iff, l, member, s, scope,
      selection, bound.trans binding, ?_, own ▸ selected, shown, select_fields selected⟩
    rw [own]
    rfl
  filled e o same held := held.congr same.stamp

end Resolver

namespace Page
variable {p : Page} {r : Resolver} {values : Option Values} {resolved : List Layer}
    {page : ResolvedPage}

theorem ResolvesTo.stamps (unstamped : ∀ l ∈ preorderForest p.stored, l.itemId = none)
    (resolves : p.ResolvesTo r values resolved) : ∀ n ∈ preorderForest resolved,
      r.StampOfClone p.stored n.toElement := by
  obtain ⟨expanded, tree, expands, _, injected, done⟩ := resolves
  have ignores : IgnoresSlots fun e => (e.itemId, e.id, e.binding?) := by
    intro e o same
    simp only [show o.itemId = e.itemId from congrArg (·.itemId) same, same.id, same.binding?]
  refine Resolver.resolveForest_keeps (r.makes_stamps p.stored) tree (fun n member => ?_) done
  obtain ⟨l, stored, equal⟩ := exists_stored_of_injected ignores expands injected n member
  simp only [Prod.mk.injEq] at equal
  obtain ⟨sameItem, sameId, sameBinding⟩ := equal
  exact ⟨sameItem ▸ unstamped l stored, l, stored, sameId, sameBinding⟩

theorem finish_stamps (finished : p.finish r values resolved = .ok page) {c : Layer}
    (member : c ∈ preorderForest page.layers) :
    ∃ n ∈ preorderForest resolved, c.stamp = n.stamp := by
  obtain ⟨seen, layers, filtered, _, patched, rfl⟩ := finish_ok_iff.mp finished
  have isShown : c.toElement ∈ (forestLineages [] layers).filterMap List.head? := by
    rw [forestLineages_elements]
    exact List.mem_map_of_mem member
  obtain ⟨shown, ofPage, head⟩ := List.mem_filterMap.mp isShown
  obtain ⟨left, ofSeen, patch⟩ := forall₂_mem_right (Pagination.apply_nodes patched) ofPage
  have stamps := patch.stamp
  rw [head, Option.map_some] at stamps
  obtain ⟨e, isHead, same⟩ := Option.map_eq_some_iff.mp stamps.symm
  have isSeen : e ∈ (preorderForest seen.layers).map (·.toElement) := by
    rw [← forestLineages_elements []]
    exact List.mem_filterMap.mpr ⟨left, ofSeen, isHead⟩
  obtain ⟨n, isResolved, rfl⟩ := List.mem_map.mp ((visibleForest_elements filtered).subset isSeen)
  exact ⟨n, isResolved, same.symm⟩

theorem finish_slugs (finished : p.finish r values resolved = .ok page) :
    page.slugs = p.addSlug r.settings (itemSlugs page.layers) := by
  obtain ⟨_, _, _, _, _, rfl⟩ := finish_ok_iff.mp finished
  rfl

end Page

/-- The keys of the index are the page's own item and those of the clones that are left, each if it
    has a slug. The page's own item has its own slug there, and any other item the one that the last
    of its clones with a slug is stamped with. -/
theorem slug_index_shows_what_is_left (p : Page) (r : Resolver) {page : ResolvedPage}
    (unstamped : ∀ l ∈ preorderForest p.stored, l.itemId = none)
    (resolves : (p.resolve r).result = .ok page) :
    (∀ c ∈ preorderForest page.layers, ∀ id, c.itemId = some id →
      ∃ item fields, item.id = id ∧ r.CloneFor p.stored item fields c.toElement) ∧
    (∀ id, id ≠ "" → ((page.slugs.lookup id).isSome ↔
      (∃ slug, p.OwnSlug r.settings.slugFieldKey id slug) ∨
        ∃ c ∈ preorderForest page.layers, c.itemId = some id ∧ ∃ slug, c.itemSlug = some slug ∧
          slug ≠ "")) ∧
    (∀ id slug, p.OwnSlug r.settings.slugFieldKey id slug → page.slugs.lookup id = some slug) ∧
    ∀ id slug, page.slugs.lookup id = some slug →
      (∀ own, ¬p.OwnSlug r.settings.slugFieldKey id own) →
      ∃ before c after item fields, preorderForest page.layers = before ++ c :: after ∧
        item.id = id ∧
        r.CloneFor p.stored item fields c.toElement ∧ c.itemSlug = some slug ∧
        item.HasSlug fields r.settings.slugFieldKey slug ∧ ∀ l ∈ after, l.itemId = some id →
          l.itemSlug = none := by
  obtain ⟨values, resolved, resolution, finished⟩ := Page.resolve_ok_iff.mp resolves
  have clones : ∀ c ∈ preorderForest page.layers, r.StampOfClone p.stored c.toElement := by
    intro c member
    obtain ⟨n, ofResolved, same⟩ := Page.finish_stamps finished member
    exact (resolution.stamps unstamped n ofResolved).congr same
  rw [Page.finish_slugs finished]
  refine ⟨clones, fun id present => ?_, fun id slug own => Page.lookup_addSlug_of_own own,
    fun id slug found foreign => ?_⟩
  · by_cases own : ∃ slug, p.OwnSlug r.settings.slugFieldKey id slug
    · obtain ⟨slug, own⟩ := own
      simp only [Page.lookup_addSlug_of_own own, Option.isSome_some, true_iff]
      exact .inl ⟨slug, own⟩
    · rw [Page.lookup_addSlug_of_not_own (not_exists.mp own), isSome_lookup_itemSlugs present]
      simp only [own, false_or]
  · rw [Page.lookup_addSlug_of_not_own foreign] at found
    exact Resolver.exists_last_clone clones found

def titled : List Field := [{ id := "title", key := some "slug" }]

def revisedNotes : Repository :=
  ((({} : Repository).add "notes" titled [note "n1" "one", note "n2" "two"] none).add
    "revisions" titled [{ id := "n1", collectionId := "revisions", values := [("title", "first")] }]
      none).add
    "pictures" [] [{ id := "n1", collectionId := "pictures" }] none

theorem revisedNotes_source : revisedNotes.source = revisedNotes.plainSource := by
  refine Repository.source_eq_plainSource ?_
  intro v
  cases v <;> decide

def listing (id : String) : Layer := { id, bindings := { collection := some { id } } }

def otherNotes : Page where
  layers := [noteList (titleIsNot "two"), listing "revisions"]
  item := some (note "n3" "three")
  fields := titled

theorem hidden_note_has_no_slug :
    (∀ l ∈ preorderForest otherNotes.stored, l.itemId = none) ∧
      ∃ page, (otherNotes.resolve { source := revisedNotes.source }).result = .ok page ∧
        (page.slugs.lookup "n1").isSome ∧ page.slugs.lookup "n2" = none ∧
        page.slugs.lookup "n3" = some "three" := by
  have unstamped : ∀ l ∈ preorderForest otherNotes.stored, l.itemId = none := by decide +kernel
  have resolution : (otherNotes.resolve { source := revisedNotes.plainSource }).result.toOption.map
      (fun page => (preorderForest page.layers).map fun c => (c.itemId, c.itemSlug)) =
        some [(none, none), (some "n1", some "one"), (none, none), (some "n1", some "first")] := by
    decide +kernel
  refine ⟨unstamped, ?_⟩
  rw [revisedNotes_source]
  obtain ⟨page, done, stamps⟩ := toOption_map_eq_some_iff.mp resolution
  obtain ⟨-, keys, own, -⟩ :=
    slug_index_shows_what_is_left otherNotes { source := revisedNotes.plainSource } unstamped done
  have stampedWith : ∀ stamp, (∃ c ∈ preorderForest page.layers, (c.itemId, c.itemSlug) = stamp) ↔
      stamp ∈ [(none, none), (some "n1", some "one"), (none, none), (some "n1", some "first")] := by
    intro stamp
    rw [← stamps, List.mem_map]
  refine ⟨page, done, ?_, ?_, ?_⟩
  · obtain ⟨c, left, stamp⟩ := (stampedWith (some "n1", some "first")).mpr (by decide)
    obtain ⟨ofItem, slug⟩ := Prod.mk.inj stamp
    exact (keys "n1" (by decide)).mpr (.inr ⟨c, left, ofItem, "first", slug, by decide⟩)
  · rw [← Option.not_isSome_iff_eq_none, keys "n2" (by decide)]
    rintro (⟨slug, item, shown, same, _⟩ | ⟨c, left, ofItem, slug, hasSlug, _⟩)
    · cases shown
      exact absurd same (by decide)
    · have stamp := (stampedWith (some "n2", some slug)).mp ⟨c, left, by rw [ofItem, hasSlug]⟩
      simp at stamp
  · exact own "n3" "three" ⟨note "n3" "three", rfl, rfl, ⟨_, ⟨[], [], rfl, rfl, by simp⟩, rfl⟩, by
      decide⟩

def illustrated : Page := { layers := [listing "revisions", listing "pictures"] }

theorem last_clone_has_no_slug :
    (∀ l ∈ preorderForest illustrated.stored, l.itemId = none) ∧ illustrated.item = none ∧
      ∃ page c, (illustrated.resolve { source := revisedNotes.source }).result = .ok page ∧
        (preorderForest page.layers).reverse.find? (·.itemId = some "n1") = some c ∧
        c.itemSlug = none ∧
        page.slugs.lookup "n1" = some "first" := by
  refine ⟨by decide +kernel, rfl, ?_⟩
  rw [revisedNotes_source]
  have resolution : (illustrated.resolve { source := revisedNotes.plainSource }).result.toOption.map
      (fun page =>
        (((preorderForest page.layers).reverse.find? (·.itemId = some "n1")).map (·.itemSlug),
        page.slugs.lookup "n1")) = some (some none, some "first") := by
    decide +kernel
  obtain ⟨page, done, found⟩ := toOption_map_eq_some_iff.mp resolution
  obtain ⟨last, slug⟩ := Prod.mk.inj found
  obtain ⟨c, isLast, unnamed⟩ := Option.map_eq_some_iff.mp last
  exact ⟨page, c, done, isLast, unnamed, slug⟩

end PageLayers
