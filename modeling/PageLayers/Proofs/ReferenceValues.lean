import PageLayers.Proofs.ReferenceWalk
import PageLayers.Store.Repository

/-!
Which values a walk through references gathers. Each visit on its trail is the end of a way of
references, and the trail is in depth-first order, in which places are compared as lists of numbers.
A visit offers the values of the item that it comes to, under the path of its way. The values that
were there stay, and of several offers for a key the first one counts.
-/

namespace PageLayers

namespace Entries
variable {α : Type}

theorem lookup_putNew (key k : String) (value : α) (m : Entries α) :
    (putNew key value m).lookup k = (m.lookup k).or (List.lookup k [(key, value)]) := by
  unfold putNew
  cases stored : m.lookup key with
  | none => rw [Option.isSome_none, if_neg Bool.false_ne_true, List.lookup_append]
  | some old =>
    rw [Option.isSome_some, if_pos rfl]
    by_cases same : k = key
    · subst same
      rw [stored, Option.some_or]
    · rw [List.lookup_cons, beq_false_of_ne same, List.lookup_nil, Option.or_none]

/-- Entries are added in turn, and none of them takes the place of an older one. -/
def extend (m : Entries α) (entries : List (String × α)) : Entries α :=
  entries.foldl (fun m e => putNew e.1 e.2 m) m

theorem lookup_extend (m : Entries α) (entries : List (String × α)) (k : String) :
    (m.extend entries).lookup k = (m.lookup k).or (List.lookup k entries) := by
  induction entries generalizing m with
  | nil => rw [List.lookup_nil, Option.or_none]; rfl
  | cons e entries ih =>
    change (extend (putNew e.1 e.2 m) entries).lookup k = _
    rw [ih, lookup_putNew, Option.or_assoc, ← List.lookup_append, List.singleton_append]

theorem extend_append (m : Entries α) (xs ys : List (String × α)) :
    m.extend (xs ++ ys) = (m.extend xs).extend ys :=
  List.foldl_append

end Entries

namespace References

/-- A visit stands for a way of references: it starts at one of a list whose head has the given
    number, and goes on, through the item to which that leads, to one of that item's references. -/
inductive Way (leads : Leads) : Nat → List Link → Visit → Prop
  | here {n : Nat} {l : Link} {ls : List Link} : Way leads n (l :: ls) (.start n l)
  | deeper {n : Nat} {l : Link} {ls : List Link} {item : Item} {fields : List Field} {x : Visit}
      (found : leads l = some (item, fields)) (inside : Way leads 0 (links item.values fields) x) :
      Way leads n (l :: ls) (.under n l x)
  | later {n : Nat} {l : Link} {ls : List Link} {x : Visit} (rest : Way leads (n + 1) ls x) :
      Way leads n (l :: ls) x

/-- The path of a way: the fields on it in turn, after the path by which the item itself is reached.
    -/
def pathOf (path : String) (way : List Link) :
    String := way.foldl (fun p l => extendPath p l.field.id) path

theorem intercalate_glue (p q : String) (rest : List String) :
    ".".intercalate ((p ++ "." ++ q) :: rest) = ".".intercalate (p :: q :: rest) := by
  rw [String.intercalate_cons_cons]
  cases rest with
  | nil => rw [String.intercalate_singleton, String.intercalate_singleton]
  | cons r rest => simp only [String.intercalate_cons_cons, String.append_assoc]

theorem pathOf_eq_intercalate (path : String) (way : List Link) :
    pathOf path way = ".".intercalate ((path :: way.map (·.field.id)).dropWhile (· = "")) := by
  induction way generalizing path with
  | nil =>
    by_cases blank : path = ""
    · simp [pathOf, blank]
    · simp [pathOf, blank]
  | cons l way ih =>
    change pathOf (extendPath path l.field.id) way = _
    rw [ih, List.map_cons]
    by_cases blank : path = ""
    · simp [extendPath, blank]
    · have long : path ++ "." ++ l.field.id ≠ "" := by simp [blank]
      simp only [extendPath, blank, ↓reduceIte, List.dropWhile_cons, long, decide_false,
        Bool.false_eq_true, ↓reduceIte]
      exact intercalate_glue path l.field.id _

def valuesUnder (path : String) (item : Item) (fields : List Field) : List (String × String) :=
  fields.filterMap fun r => (item.values.lookup r.id).map fun value => (path ++ "." ++ r.id, value)

def offers (leads : Leads) (path : String) (x : Visit) : List (String × String) :=
  match leads x.link with
  | none => []
  | some (item, fields) => valuesUnder (pathOf path x.way) item fields

/-- A visit offers a value under a key if it comes to an item whose own value of some field it is.
    -/
def Offers (leads : Leads) (path : String) (x : Visit) (key value : String) : Prop :=
  ∃ item fields, leads x.link = some (item, fields) ∧
    ∃ r ∈ fields, item.values.lookup r.id = some value ∧ key = pathOf path x.way ++ "." ++ r.id

section trail
variable {leads : Leads} {path : String} {n : Nat} {ls : List Link} {w w' : Walk}
    {trail : List Visit}

theorem Way.place_head {x : Visit} (way : Way leads n ls x) : ∃ i rest, x.place = i :: rest ∧
    n ≤ i := by
  induction way with
  | here => exact ⟨_, [], rfl, Nat.le_refl _⟩
  | deeper => exact ⟨_, _, rfl, Nat.le_refl _⟩
  | later _ ih =>
    obtain ⟨i, rest, place, after⟩ := ih
    exact ⟨i, rest, place, by omega⟩

theorem Way.after {x : Visit} (way : Way leads (n + 1) ls x) (rest : List Nat) : n ::
    rest < x.place := by
  obtain ⟨i, inside, place, after⟩ := way.place_head
  rw [place]
  exact List.cons_lt_cons_iff.mpr (Or.inl after)

theorem Visit.under_lt_under {l : Link} {x y : Visit} (earlier : x.place < y.place) :
    (Visit.under n l x).place < (Visit.under n l y).place :=
  List.cons_lt_cons_iff.mpr (Or.inr ⟨rfl, earlier⟩)

theorem Way.start_lt_under {l : Link} {x : Visit} (way : Way leads 0 ls x) :
    (Visit.start n l).place < (Visit.under n l x).place := by
  obtain ⟨i, rest, place, _⟩ := way.place_head
  refine List.cons_lt_cons_iff.mpr (Or.inr ⟨rfl, ?_⟩)
  rw [place]
  exact List.nil_lt_cons _ _

theorem Walks.ways (walks : Walks leads path n ls w trail w') : ∀ x ∈ trail, Way leads n ls x := by
  induction walks with
  | done =>
    intro x member
    simp at member
  | seen _ _ ih => exact fun x member => .later (ih x member)
  | missed _ _ _ ih =>
    intro x member
    rcases List.mem_cons.mp member with rfl | after
    · exact .here
    · exact .later (ih x after)
  | followed _ found _ _ inside rest =>
    intro x member
    rcases mem_followed_iff.mp member with rfl | ⟨y, below, rfl⟩ | later
    · exact .here
    · exact .deeper found (inside y below)
    · exact .later (rest x later)

theorem Walks.ascending (walks : Walks leads path n ls w trail w') : trail.Pairwise fun x y =>
    x.place < y.place := by
  induction walks with
  | done => exact .nil
  | seen _ _ ih => exact ih
  | missed _ _ rest ih => exact .cons (fun x member => (rest.ways x member).after []) ih
  | followed _ _ inside rest sorted sortedRest =>
    refine .cons ?_ (List.pairwise_append.mpr ⟨List.pairwise_map.mpr ?_, sortedRest, ?_⟩)
    · intro x member
      rcases List.mem_append.mp member with within | further
      · obtain ⟨y, old, rfl⟩ := List.mem_map.mp within
        exact (inside.ways y old).start_lt_under
      · exact (rest.ways x further).after []
    · exact sorted.imp fun earlier => Visit.under_lt_under earlier
    · intro x within y further
      obtain ⟨z, old, rfl⟩ := List.mem_map.mp within
      exact (rest.ways y further).after z.place

theorem addValues_eq (path : String) (item : Item) (fields : List Field) (values : Values) :
    addValues path item fields values = values.extend (valuesUnder path item fields) := by
  unfold addValues valuesUnder
  induction fields generalizing values with
  | nil => rfl
  | cons f fields ih =>
    rw [List.foldl_cons, ih]
    cases stored : item.values.lookup f.id with
    | none => simp [stored]
    | some value => simp [stored, Entries.extend]

theorem offers_start {l : Link} {item : Item} {fields : List Field}
    (found : leads l = some (item, fields)) :
    offers leads path (.start n l) = valuesUnder (extendPath path l.field.id) item fields := by
  simp only [offers, Visit.start, found]
  rfl

theorem offers_under (n : Nat) (l : Link) (trail : List Visit) :
    (trail.map (Visit.under n l)).flatMap (offers leads path) =
      trail.flatMap (offers leads (extendPath path l.field.id)) := by
  rw [List.flatMap_map]
  rfl

theorem Walks.values_eq (walks : Walks leads path n ls w trail w') :
    w'.values = w.values.extend (trail.flatMap (offers leads path)) := by
  induction walks with
  | done => rfl
  | seen _ _ ih => exact ih
  | missed _ nowhere _ ih =>
    rw [ih, List.flatMap_cons]
    simp [offers, Visit.start, nowhere]
  | followed _ found _ _ inside rest =>
    rw [rest, inside, addValues_eq, List.flatMap_cons, List.flatMap_append, offers_under,
      offers_start found, Entries.extend_append, Entries.extend_append]

theorem valuesUnder_cons (item : Item) (f : Field) (fields : List Field) :
    valuesUnder path item (f :: fields) =
      ((item.values.lookup f.id).map fun value => (path ++ "." ++ f.id, value)).toList ++
        valuesUnder path item fields := by
  unfold valuesUnder
  cases stored : item.values.lookup f.id <;> simp [stored]

theorem lookup_valuesUnder_iff {item : Item} {fields : List Field} {key value : String} :
    (valuesUnder path item fields).lookup key = some value ↔
      ∃ r ∈ fields, item.values.lookup r.id = some value ∧ key = path ++ "." ++ r.id := by
  induction fields with
  | nil => simp [valuesUnder]
  | cons f fields ih =>
    rw [valuesUnder_cons, List.lookup_append, List.exists_mem_cons_iff]
    cases stored : item.values.lookup f.id with
    | none => simp [ih]
    | some first =>
      by_cases same : key = path ++ "." ++ f.id
      · have hit : [(path ++ "." ++ f.id, first)].lookup key = some first := by simp [same]
        simp only [Option.map_some, Option.toList_some, hit, Option.some_or, Option.some.injEq]
        constructor
        · intro value
          exact Or.inl ⟨value, same⟩
        · intro offered
          rcases offered with ⟨value, _⟩ | ⟨r, _, own, key'⟩
          · exact value
          · -- A field that makes the same key has the same id, and so the same value.
            have id : r.id = f.id := (String.append_right_inj _).mp (key'.symm.trans same)
            rw [id, stored, Option.some.injEq] at own
            exact own
      · have miss : [(path ++ "." ++ f.id, first)].lookup key = none := by
          rw [List.lookup_cons, beq_false_of_ne same, List.lookup_nil]
        simp [same, miss, ih]

theorem lookup_offers_iff {x : Visit} {key value : String} :
    (offers leads path x).lookup key = some value ↔ Offers leads path x key value := by
  unfold offers Offers
  cases found : leads x.link with
  | none => simp
  | some pair =>
    obtain ⟨item, fields⟩ := pair
    simp [lookup_valuesUnder_iff]

theorem lookup_trail_iff {key value : String}
    (ascending : trail.Pairwise fun x y => x.place < y.place) :
    (trail.flatMap (offers leads path)).lookup key = some value ↔
      ∃ x ∈ trail, Offers leads path x key value ∧
        ∀ y ∈ trail, y.place < x.place → ∀ other, ¬Offers leads path y key other := by
  induction trail with
  | nil => simp
  | cons x trail ih =>
    obtain ⟨first, sorted⟩ := List.pairwise_cons.mp ascending
    rw [List.flatMap_cons, List.lookup_append]
    constructor
    · intro found
      rcases Option.or_eq_some_iff.mp found with here | ⟨none, further⟩
      · refine ⟨x, by simp, lookup_offers_iff.mp here, ?_⟩
        intro y member earlier
        rcases List.mem_cons.mp member with rfl | after
        · exact absurd earlier (List.lt_irrefl _)
        · exact absurd earlier (List.lt_asymm (first y after))
      · obtain ⟨z, member, own, foremost⟩ := (ih sorted).mp further
        refine ⟨z, List.mem_cons_of_mem x member, own, ?_⟩
        intro y old earlier other offered
        rcases List.mem_cons.mp old with rfl | after
        · rw [lookup_offers_iff.mpr offered] at none
          simp at none
        · exact foremost y after earlier other offered
    · intro offered
      obtain ⟨z, member, own, foremost⟩ := offered
      rcases List.mem_cons.mp member with rfl | after
      · rw [lookup_offers_iff.mpr own, Option.some_or]
      · have none : (offers leads path x).lookup key = none := by
          rw [Option.eq_none_iff_forall_ne_some]
          intro other here
          exact foremost x (by simp) (first z after) other (lookup_offers_iff.mp here)
        rw [none, Option.none_or]
        exact (ih sorted).mpr ⟨z, after, own, fun y old => foremost y (List.mem_cons_of_mem x old)⟩

end trail

/-- What a walk adds to the values are values of items that references lead to, each under the path
    of a way to its item: the field ids on the way with dots between them. The values that were
    there stay as they are, and where several ways of the trail make the same key, the first one in
    depth-first order gives it its value. -/
theorem walk_gathers_first_offers (source : DataSource) (v : Variant) (values : Values)
    (fields : List Field) (path : String) (visited : List String) {w : Walk}
    (done : (walk source v values fields path visited).result = .ok w) :
    ∃ trail, Walks (leads source v) path 0 (links values fields) ⟨visited, values⟩ trail w ∧
      Readable values fields ∧ Legible (leads source v) trail ∧ Shallow (leads source v) trail ∧
      trail.Pairwise (fun x y => x.place < y.place) ∧
      (∀ x ∈ trail, Way (leads source v) 0 (links values fields) x ∧
        pathOf path x.way = ".".intercalate ((path :: x.way.map (·.field.id)).dropWhile (· = ""))) ∧
      ∀ key value, w.values.lookup key = some value ↔
        values.lookup key = some value ∨
          values.lookup key = none ∧ ∃ x ∈ trail, Offers (leads source v) path x key value ∧
            ∀ y ∈ trail, y.place < x.place →
              ∀ other, ¬Offers (leads source v) path y key other := by
  obtain ⟨readable, trail, walks, legible, shallow, _⟩ := walks_of_walk done
  refine ⟨trail, walks, readable, legible, shallow, walks.ascending, fun x member =>
    ⟨walks.ways x member, pathOf_eq_intercalate path x.way⟩, ?_⟩
  intro key value
  rw [walks.values_eq, Entries.lookup_extend, Option.or_eq_some_iff,
    lookup_trail_iff walks.ascending]

def mentors : Repository :=
  ({} : Repository).add "authors"
    [{ id := "name" },
      { id := "mentor", type := .reference, referenceCollectionId := some "authors" }]
    [{ id := "a1", collectionId := "authors", values := [("name", "Ada"), ("mentor", "a2")] },
      { id := "a2", collectionId := "authors", values := [("name", "Ben"), ("mentor", "a1")] }] none

def book : Values := [("title", "Tides"), ("authors", "[\"a1\", \"a2\"]")]

def bookFields : List Field :=
  [{ id := "title" },
    { id := "authors", type := .multiReference, referenceCollectionId := some "authors" }]

theorem book_gathers_first_author :
    ∃ w trail, (walk mentors.source .published book bookFields "" []).result = .ok w ∧
      Walks (leads mentors.source .published) "" 0 (links book bookFields) ⟨[], book⟩ trail w ∧
      ∃ x ∈ trail, Offers (leads mentors.source .published) "" x "authors.name" "Ada" ∧
        ∀ y ∈ trail, y.place < x.place →
          ∀ other, ¬Offers (leads mentors.source .published) "" y "authors.name" other := by
  have done : (walk mentors.source .published book bookFields "" []).result = .ok
      ⟨["authors:a2", "mentor:a1", "mentor:a2", "authors:a1"],
        book ++ [("authors.name", "Ada"), ("authors.mentor", "a2"), ("authors.mentor.name", "Ben"),
          ("authors.mentor.mentor", "a1"), ("authors.mentor.mentor.name", "Ada"),
          ("authors.mentor.mentor.mentor", "a2")]⟩ := by decide +kernel
  obtain ⟨trail, walks, _, _, _, _, _, gathered⟩ := walk_gathers_first_offers _ _ _ _ _ _ done
  refine ⟨_, trail, done, walks, ?_⟩
  rcases (gathered "authors.name" "Ada").mp (by decide) with old | ⟨_, first⟩
  · exact absurd old (by decide)
  · exact first

end References
end PageLayers
