import PageLayers.Proofs.Journal
import PageLayers.Resolution.References
import Mathlib.Data.List.Count

/-!
The walk through references, told without a bound on its depth. The references in an item's values
stand in a list, and a walk goes through the list from its head: it leaves out what has been
visited, and after a reference that leads to an item it goes through the references of that item
before it comes to the next one. What it visits on the way is its trail. Such a walk always comes to
an end, because each step down takes a key that has not been visited, of which there are finitely
many. The walk that is run fetches the references of the trail in turn, and fails where there is no
room to follow one.
-/

namespace PageLayers.References

/-- A stored reference: the field, the collection that the field points into, and the id of an item.
    -/
structure Link where
  field : Field
  target : String
  itemId : String
  deriving DecidableEq, Repr

def Link.key (l : Link) : String := visitKey l.field.id l.itemId

def links (values : Values) (fields : List Field) : List Link :=
  fields.flatMap fun f =>
    match target? f, decode (some f.type) (values.lookup f.id) with
    | some collectionId, .ok ids => ids.map fun id => ⟨f, collectionId, id⟩
    | _, _ => []

def Readable (values : Values) (fields : List Field) : Prop :=
  ∀ f ∈ fields, (target? f).isSome = true → (decode (some f.type) (values.lookup f.id)).isOk = true

abbrev Leads := Link → Option (Item × List Field)

def leads (source : DataSource) (v : Variant) : Leads := fun l =>
  match (fetchReferenced source v l.target l.itemId).result with
  | .ok found => found
  | .error _ => none

/-- A reference that is visited, and the way to it. A place has a number for each reference on the
    way, which counts its position among the references of the item that it is stored with. -/
structure Visit where
  place : List Nat
  before : List Link
  link : Link
  deriving DecidableEq, Repr

namespace Visit

def way (x : Visit) : List Link := x.before ++ [x.link]

def key (x : Visit) : String := x.link.key

def start (n : Nat) (l : Link) : Visit := ⟨[n], [], l⟩

def under (n : Nat) (l : Link) (x : Visit) : Visit := ⟨n :: x.place, l :: x.before, x.link⟩

end Visit

/-- A walk through a list of references whose head has the given number: from what was gathered
    before it to what is gathered after it, with its trail. -/
inductive Walks (leads : Leads) : String → Nat → List Link → Walk → List Visit → Walk → Prop
  | done {path : String} {n : Nat} {w : Walk} : Walks leads path n [] w [] w
  | seen {path : String} {n : Nat} {l : Link} {ls : List Link} {w w' : Walk} {trail : List Visit}
      (visited : l.key ∈ w.visited) (rest : Walks leads path (n + 1) ls w trail w') :
      Walks leads path n (l :: ls) w trail w'
  | missed {path : String} {n : Nat} {l : Link} {ls : List Link} {w w' : Walk} {trail : List Visit}
      (fresh : l.key ∉ w.visited) (nowhere : leads l = none)
      (rest : Walks leads path (n + 1) ls { w with visited := l.key :: w.visited } trail w') :
      Walks leads path n (l :: ls) w (.start n l :: trail) w'
  | followed {path : String} {n : Nat} {l : Link} {ls : List Link} {w mid w' : Walk} {item : Item}
      {fields : List Field}
      {inner trail : List Visit} (fresh : l.key ∉ w.visited) (found : leads l = some (item, fields))
      (inside : Walks leads (extendPath path l.field.id) 0 (links item.values fields)
        ⟨l.key :: w.visited, addValues (extendPath path l.field.id) item fields w.values⟩ inner mid)
      (rest : Walks leads path (n + 1) ls mid trail w') :
      Walks leads path n (l :: ls) w (.start n l :: (inner.map (.under n l) ++ trail)) w'

def Legible (leads : Leads) (trail : List Visit) : Prop :=
  ∀ x ∈ trail, ∀ item fields, leads x.link = some (item, fields) → Readable item.values fields

/-- The visit leads to an item that there is no room to follow: too many are followed on the way. -/
def Visit.Unfit (leads : Leads) (room : Nat) (x : Visit) : Prop :=
  (leads x.link).isSome = true ∧ room ≤ x.before.length

instance (leads : Leads) (room : Nat) (x : Visit) : Decidable (x.Unfit leads room) :=
  inferInstanceAs (Decidable (_ ∧ _))

/-- All items that a trail comes to can be followed. -/
def Shallow (leads : Leads) (trail : List Visit) : Prop := ∀ x ∈ trail, ¬ x.Unfit leads depthLimit

instance (leads : Leads) (trail : List Visit) : Decidable (Shallow leads trail) :=
  inferInstanceAs (Decidable (∀ x ∈ trail, _))

theorem mem_followed_iff {n : Nat} {l : Link} {x : Visit} {inner trail : List Visit} :
    x ∈ Visit.start n l :: (inner.map (.under n l) ++ trail) ↔
      x = .start n l ∨ (∃ y ∈ inner, Visit.under n l y = x) ∨ x ∈ trail := by
  rw [List.mem_cons, List.mem_append, List.mem_map]

section list
variable {values : Values} {fields : List Field}

theorem mem_links_iff {l : Link} :
    l ∈ links values fields ↔ l.field ∈ fields ∧ target? l.field = some l.target ∧
      ∃ ids, decode (some l.field.type) (values.lookup l.field.id) = .ok ids ∧ l.itemId ∈ ids := by
  unfold links
  rw [List.mem_flatMap]
  constructor
  · intro member
    obtain ⟨f, known, found⟩ := member
    split at found
    · rename_i collectionId ids target decoded
      obtain ⟨id, listed, rfl⟩ := List.mem_map.mp found
      exact ⟨known, target, ids, decoded, listed⟩
    · simp at found
  · intro stored
    obtain ⟨known, target, ids, decoded, listed⟩ := stored
    refine ⟨l.field, known, ?_⟩
    rw [target, decoded]
    exact List.mem_map.mpr ⟨l.itemId, listed, rfl⟩

theorem readable_cons_iff {f : Field} :
    Readable values (f :: fields) ↔
      ((target? f).isSome = true → (decode (some f.type) (values.lookup f.id)).isOk = true) ∧
      Readable values fields :=
  List.forall_mem_cons

end list

section step
variable {source : DataSource} {v : Variant} {follow : Follow} {values : Values} {path : String}

def visitLink (source : DataSource) (v : Variant) (follow : Follow) (path : String) (w : Walk)
    (l : Link) : Outcome Walk :=
  visitItem source v follow l.field.id l.target (extendPath path l.field.id) w l.itemId

def proceed (follow : Follow) (path : String) (w : Walk) (l : Link) : Option (Item × List Field) →
    Outcome Walk
  | none => pure { w with visited := l.key :: w.visited }
  | some (item, fields) =>
    follow item.values fields (extendPath path l.field.id)
      ⟨l.key :: w.visited, addValues (extendPath path l.field.id) item fields w.values⟩

theorem foldlM_visitField {fields : List Field} (readable : Readable values fields) (w : Walk) :
    fields.foldlM (visitField source v follow values path) w =
      (links values fields).foldlM (visitLink source v follow path) w := by
  induction fields generalizing w with
  | nil => rfl
  | cons f fields ih =>
    obtain ⟨first, rest⟩ := readable_cons_iff.mp readable
    have split : links values (f :: fields) = links values [f] ++ links values fields := by
      simp [links]
    have here : visitField source v follow values path w f =
        (links values [f]).foldlM (visitLink source v follow path) w := by
      unfold visitField
      cases target : target? f with
      | none => simp [links, target]
      | some collectionId =>
        cases decoded : decode (some f.type) (values.lookup f.id) with
        | error cause =>
          have read := first (by simp [target])
          simp [decoded, Except.isOk, Except.toBool] at read
        | ok ids =>
          change (pure ids >>= fun ids => ids.foldlM _ w) = _
          rw [pure_bind]
          simp only [links, List.flatMap_cons, List.flatMap_nil, List.append_nil, target, decoded,
            List.foldlM_map]
          rfl
    rw [List.foldlM_cons, split, List.foldlM_append, here]
    exact bind_congr (ih rest)

theorem readable_of_foldlM {fields : List Field} {w w' : Walk}
    (done : (fields.foldlM (visitField source v follow values path) w).result = .ok w') :
    Readable values fields := by
  induction fields generalizing w with
  | nil =>
    intro f member
    simp at member
  | cons f fields ih =>
    rw [List.foldlM_cons] at done
    obtain ⟨mid, first, rest⟩ := Outcome.bind_ok_iff.mp done
    refine readable_cons_iff.mpr ⟨fun target => ?_, ih rest⟩
    obtain ⟨collectionId, target⟩ := Option.isSome_iff_exists.mp target
    unfold visitField at first
    rw [target] at first
    obtain ⟨ids, decoded, _⟩ := Outcome.bind_ok_iff.mp first
    rw [Outcome.result_ofResult] at decoded
    rw [decoded]
    rfl

theorem leads_of_fetchOrSkip {l : Link} {found : Option (Item × List Field)}
    (fetches : (fetchOrSkip source v l.field.id l.target l.itemId).result = .ok found) :
    leads source v l = found := by
  unfold leads
  rcases Outcome.orElse_ok_iff.mp fetches with direct | ⟨cause, failed, _, skipped⟩
  · rw [direct]
  · rw [failed]
    obtain ⟨_, _, nothing⟩ := Outcome.bind_ok_iff.mp skipped
    rw [Outcome.result_pure, Except.ok.injEq] at nothing
    exact nothing

theorem visitLink_seen {w : Walk} {l : Link} (seen : l.key ∈ w.visited) :
    visitLink source v follow path w l = pure w := by
  have visited : w.visited.contains (visitKey l.field.id l.itemId) = true :=
    List.contains_iff_mem.mpr seen
  simp only [visitLink, visitItem, visited, ↓reduceIte]

theorem visitLink_fresh {w : Walk} {l : Link} (fresh : l.key ∉ w.visited) :
    visitLink source v follow path w l =
      fetchOrSkip source v l.field.id l.target l.itemId >>= proceed follow path w l := by
  have unvisited : w.visited.contains (visitKey l.field.id l.itemId) = false := by
    simpa [Link.key] using fresh
  simp only [visitLink, visitItem, unvisited, Bool.false_eq_true, ↓reduceIte]
  refine bind_congr fun found => ?_
  cases found <;> rfl

end step

section fetches
variable {source : DataSource} {v : Variant}

theorem leads_eq_some_iff {l : Link} {item : Item} {fields : List Field} :
    leads source v l = some (item, fields) ↔
      (source.item l.itemId v).result = .ok (some item) ∧
      (source.fields l.target v).result = .ok fields := by
  constructor
  · intro found
    unfold leads at found
    cases reply : (fetchReferenced source v l.target l.itemId).result with
    | error cause => simp [reply] at found
    | ok pair =>
      simp only [reply] at found
      subst found
      obtain ⟨answer, asked, rest⟩ := Outcome.bind_ok_iff.mp reply
      cases answer with
      | none => simp at rest
      | some first =>
        obtain ⟨second, askedFields, both⟩ := Outcome.bind_ok_iff.mp rest
        simp only [Outcome.result_pure, Except.ok.injEq, Option.some.injEq, Prod.mk.injEq] at both
        obtain ⟨rfl, rfl⟩ := both
        exact ⟨asked, askedFields⟩
  · intro answers
    have reply : (fetchReferenced source v l.target l.itemId).result = .ok (some (item, fields)) :=
      Outcome.bind_ok_iff.mpr
        ⟨some item, answers.1, Outcome.bind_ok_iff.mpr ⟨fields, answers.2, rfl⟩⟩
    simp only [leads, reply]

def fetchTrail (source : DataSource) (v : Variant) (room : Nat) : List Visit → Outcome Unit
  | [] => pure ()
  | x :: trail => do
    let found ← fetchOrSkip source v x.link.field.id x.link.target x.link.itemId
    if found.isSome ∧ room ≤ x.before.length then .fail .tooDeep
    else fetchTrail source v room trail

theorem fetchTrail_append (room : Nat) (xs ys : List Visit) :
    fetchTrail source v room (xs ++ ys) =
      fetchTrail source v room xs >>= fun _ => fetchTrail source v room ys := by
  induction xs with
  | nil => rw [List.nil_append, fetchTrail, pure_bind]
  | cons x xs ih =>
    simp only [List.cons_append, fetchTrail, bind_assoc]
    refine bind_congr fun found => ?_
    split
    · rfl
    · exact ih

theorem fetchTrail_under (room n : Nat) (l : Link) (trail : List Visit) :
    fetchTrail source v (room + 1) (trail.map (.under n l)) = fetchTrail source v room trail := by
  induction trail with
  | nil => rfl
  | cons x trail ih =>
    simp only [List.map_cons, fetchTrail, ih, Visit.under, List.length_cons,
      Nat.add_le_add_iff_right]

end fetches

section keys
variable {leads : Leads} {path : String} {n : Nat} {ls : List Link} {w w' : Walk}
    {trail : List Visit}

@[simp] theorem Visit.key_start (n : Nat) (l : Link) : (Visit.start n l).key = l.key := rfl

@[simp] theorem Visit.key_comp_under (n : Nat) (l : Link) : Visit.key ∘ Visit.under n l =
    Visit.key := rfl

theorem Walks.visited_eq (walks : Walks leads path n ls w trail w') :
    w'.visited = (trail.map Visit.key).reverse ++ w.visited := by
  induction walks with
  | done => rfl
  | seen _ _ ih => exact ih
  | missed _ _ _ ih => simp [ih]
  | followed _ _ _ _ inside rest => simp [rest, inside]

theorem Walks.grows (walks : Walks leads path n ls w trail w') : ∀ k ∈ w.visited,
    k ∈ w'.visited := by
  intro k old
  rw [walks.visited_eq]
  exact List.mem_append_right _ old

def unvisited (known visited : List String) : Nat := known.countP fun k => decide (k ∉ visited)

theorem unvisited_le {known visited visited' : List String} (grows : ∀ k ∈ visited, k ∈ visited') :
    unvisited known visited' ≤ unvisited known visited := by
  refine List.countP_mono_left fun k _ fresh => ?_
  simp only [decide_eq_true_eq] at fresh ⊢
  exact fun old => fresh (grows k old)

theorem unvisited_lt {known visited : List String} {k : String} (member : k ∈ known)
    (fresh : k ∉ visited) : unvisited known (k :: visited) < unvisited known visited := by
  obtain ⟨before, after, rfl⟩ := List.append_of_mem member
  have left : unvisited before (k :: visited) ≤ unvisited before visited :=
    unvisited_le fun _ old => List.mem_cons_of_mem k old
  have right : unvisited after (k :: visited) ≤ unvisited after visited :=
    unvisited_le fun _ old => List.mem_cons_of_mem k old
  unfold unvisited at *
  simp only [List.countP_append, List.countP_cons, List.mem_cons, true_or, not_true_eq_false,
    decide_false, fresh, not_false_eq_true, decide_true, Bool.false_eq_true, ↓reduceIte] at *
  omega

end keys

section depth
variable {source : DataSource} {v : Variant} {ids : List String}

def knownKeys (ids : List String) : List String := ids.flatMap fun fieldId =>
    ids.map (visitKey fieldId)

/-- The ids of what the source can fetch are among the given ones. -/
structure Covers (source : DataSource) (v : Variant) (ids : List String) : Prop where
  items : ∀ id item, (source.item id v).result = .ok (some item) → id ∈ ids
  fields : ∀ c fs, (source.fields c v).result = .ok fs → ∀ f ∈ fs, f.id ∈ ids

theorem Covers.key_known (covers : Covers source v ids) {l : Link} (field : l.field.id ∈ ids)
    {item : Item} {fields : List Field} (found : leads source v l = some (item, fields)) :
    l.key ∈ knownKeys ids := by
  have item := covers.items l.itemId item (leads_eq_some_iff.mp found).1
  exact List.mem_flatMap.mpr ⟨l.field.id, field, List.mem_map_of_mem item⟩

theorem Covers.links_known (covers : Covers source v ids) {l : Link} {item : Item}
    {fields : List Field}
    (found : leads source v l = some (item, fields)) : ∀ m ∈ links item.values fields,
      m.field.id ∈ ids := by
  intro m member
  exact covers.fields l.target fields (leads_eq_some_iff.mp found).2 m.field
    (mem_links_iff.mp member).1

def Ends (source : DataSource) (v : Variant) (ids : List String) (bound : Nat) : Prop :=
  ∀ (path : String) (n : Nat) (ls : List Link) (w : Walk), (∀ l ∈ ls, l.field.id ∈ ids) →
    unvisited (knownKeys ids) w.visited ≤ bound →
      ∃ trail w', Walks (leads source v) path n ls w trail w'

theorem ends_of_below (covers : Covers source v ids) {bound : Nat}
    (below : ∀ less, bound = less + 1 → Ends source v ids less) : Ends source v ids bound := by
  intro path n ls w known bounded
  induction ls generalizing n w with
  | nil => exact ⟨[], w, .done⟩
  | cons l ls ih =>
    obtain ⟨here, others⟩ := List.forall_mem_cons.mp known
    by_cases seen : l.key ∈ w.visited
    · obtain ⟨trail, w', rest⟩ := ih (n + 1) w others bounded
      exact ⟨trail, w', .seen seen rest⟩
    · have fewer : unvisited (knownKeys ids) (l.key :: w.visited) ≤
        unvisited (knownKeys ids) w.visited :=
        unvisited_le fun _ old => List.mem_cons_of_mem _ old
      cases goes : leads source v l with
      | none =>
        obtain ⟨trail, w', rest⟩ :=
          ih (n + 1) { w with visited := l.key :: w.visited } others (Nat.le_trans fewer bounded)
        exact ⟨_, w', .missed seen goes rest⟩
      | some pair =>
        obtain ⟨item, fields⟩ := pair
        -- The key of an item that is found is a known one, so there is one fewer to visit.
        have taken := unvisited_lt (covers.key_known here goes) seen
        obtain ⟨less, rfl⟩ : ∃ less, bound = less + 1 := ⟨bound - 1, by omega⟩
        obtain ⟨inner, mid, inside⟩ :=
          below less rfl (extendPath path l.field.id) 0 (links item.values fields)
          ⟨l.key :: w.visited, addValues (extendPath path l.field.id) item fields w.values⟩
          (covers.links_known goes) (by simp only; omega)
        obtain ⟨trail, w', rest⟩ :=
          ih (n + 1) mid others
            (Nat.le_trans (unvisited_le inside.grows) (Nat.le_trans fewer bounded))
        exact ⟨_, w', .followed seen goes inside rest⟩

theorem ends (covers : Covers source v ids) (bound : Nat) : Ends source v ids bound := by
  induction bound with
  | zero => exact ends_of_below covers fun less same => by omega
  | succ bound ih =>
    refine ends_of_below covers fun less same => ?_
    cases same
    exact ih

/-- However often items refer back to each other, there is a walk. -/
theorem exists_walks (source : DataSource) (v : Variant) (path : String) (n : Nat) (ls : List Link)
    (w : Walk) : ∃ trail w', Walks (leads source v) path n ls w trail w' := by
  obtain ⟨ids, items, fields⟩ := source.finite v
  have covers : Covers source v (ls.map (·.field.id) ++ ids) :=
    { items := fun id item found => List.mem_append_right _ (items id item found)
      fields := fun c fs found f member => List.mem_append_right _ (fields c fs found f member) }
  have known : ∀ l ∈ ls, l.field.id ∈ ls.map (·.field.id) ++ ids :=
    fun l member => List.mem_append_left _ (List.mem_map_of_mem member)
  exact ends covers _ path n ls w known (Nat.le_refl _)

end depth

section run
variable {source : DataSource} {v : Variant} {path : String} {n : Nat} {ls : List Link}
    {w w' : Walk} {trail : List Visit}

/-- The walk that is run fetches the references of its trail in turn, and comes to what the walk
    without a bound comes to if no fetch ends it and there is room for all items. -/
theorem Walks.run (walks : Walks (leads source v) path n ls w trail w')
    (legible : Legible (leads source v) trail) (room : Nat) :
    ls.foldlM (visitLink source v (followWithin source v room) path) w =
      fetchTrail source v room trail >>= fun _ => pure w' := by
  induction walks generalizing room with
  | done => rw [List.foldlM_nil, fetchTrail, pure_bind]
  | seen visited _ ih =>
    rw [List.foldlM_cons, visitLink_seen visited, pure_bind]
    exact ih legible room
  | missed fresh nowhere _ ih =>
    have rest := ih (List.forall_mem_cons.mp legible).2 room
    rw [List.foldlM_cons, visitLink_fresh fresh, bind_assoc, fetchTrail, bind_assoc]
    refine Outcome.bind_congr_ok fun found fetches => ?_
    obtain rfl : found = none := (leads_of_fetchOrSkip fetches).symm.trans nowhere
    simp only [proceed, pure_bind, rest, Option.isSome_none, Bool.false_eq_true, false_and,
      ↓reduceIte]
  | @followed path n l ls w mid _ item fields inner trail fresh found _ _ within further =>
    obtain ⟨here, others⟩ := List.forall_mem_cons.mp legible
    obtain ⟨below, after⟩ := List.forall_mem_append.mp others
    have readable : Readable item.values fields := here item fields found
    have legible_inner : Legible (leads source v) inner :=
      fun x member => below (.under n l x) (List.mem_map_of_mem member)
    rw [List.foldlM_cons, visitLink_fresh fresh, bind_assoc, fetchTrail, bind_assoc]
    refine Outcome.bind_congr_ok fun answer fetches => ?_
    obtain rfl : answer = some (item, fields) := (leads_of_fetchOrSkip fetches).symm.trans found
    cases room with
    | zero => rfl
    | succ room =>
      have deeper : ¬ room + 1 ≤ (Visit.start n l).before.length := Nat.not_succ_le_zero room
      have inner_run :
        followWithin source v (room + 1) item.values fields (extendPath path l.field.id)
          ⟨l.key :: w.visited, addValues (extendPath path l.field.id) item fields w.values⟩ =
            fetchTrail source v room inner >>= fun _ => pure mid := by
        simp only [followWithin, foldlM_visitField readable, within legible_inner room]
      simp only [proceed, inner_run, deeper, and_false, ↓reduceIte, fetchTrail_append,
        fetchTrail_under, bind_assoc, pure_bind, further after (room + 1)]

theorem Walks.legible (walks : Walks (leads source v) path n ls w trail w') {room : Nat}
    {end_ : Walk}
    (done : (ls.foldlM (visitLink source v (followWithin source v room) path) w).result =
      .ok end_) :
    Legible (leads source v) trail := by
  induction walks generalizing room end_ with
  | done => simp [Legible]
  | seen visited _ ih =>
    rw [List.foldlM_cons, visitLink_seen visited, pure_bind] at done
    exact ih done
  | missed fresh nowhere _ ih =>
    rw [List.foldlM_cons, visitLink_fresh fresh, bind_assoc] at done
    obtain ⟨found, fetches, done⟩ := Outcome.bind_ok_iff.mp done
    obtain rfl : found = none := (leads_of_fetchOrSkip fetches).symm.trans nowhere
    simp only [proceed, pure_bind] at done
    refine List.forall_mem_cons.mpr ⟨fun item fields there => ?_, ih done⟩
    exact absurd (nowhere.symm.trans there) (by simp)
  | @followed path n l ls w mid _ item fields inner trail fresh found inside _ within further =>
    rw [List.foldlM_cons, visitLink_fresh fresh, bind_assoc] at done
    obtain ⟨answer, fetches, done⟩ := Outcome.bind_ok_iff.mp done
    obtain rfl : answer = some (item, fields) := (leads_of_fetchOrSkip fetches).symm.trans found
    obtain ⟨reached, followed, done⟩ := Outcome.bind_ok_iff.mp done
    cases room with
    | zero => simp [proceed, followWithin] at followed
    | succ room =>
      simp only [proceed, followWithin] at followed
      have readable := readable_of_foldlM followed
      rw [foldlM_visitField readable] at followed
      have below := within followed
      rw [inside.run below] at followed
      obtain ⟨_, _, same⟩ := Outcome.bind_ok_iff.mp followed
      rw [Outcome.result_pure, Except.ok.injEq] at same
      subst same
      refine List.forall_mem_cons.mpr
        ⟨fun item' fields' there => ?_, List.forall_mem_append.mpr ⟨?_, further done⟩⟩
      · obtain ⟨rfl, rfl⟩ := Prod.mk.inj (Option.some.inj (found.symm.trans there))
        exact readable
      · intro x member
        obtain ⟨y, old, rfl⟩ := List.mem_map.mp member
        exact below y old

theorem fits_of_fetchTrail {room : Nat} (done : (fetchTrail source v room trail).result = .ok ()) :
    ∀ x ∈ trail, ¬ x.Unfit (leads source v) room := by
  induction trail with
  | nil => simp
  | cons x trail ih =>
    obtain ⟨found, fetches, rest⟩ := Outcome.bind_ok_iff.mp done
    have goes : leads source v x.link = found := leads_of_fetchOrSkip fetches
    split at rest
    · simp at rest
    · rename_i fits
      refine List.forall_mem_cons.mpr ⟨?_, ih rest⟩
      rw [Visit.Unfit, goes]
      exact fits

variable {values : Values} {fields : List Field} {visited : List String}

theorem Walks.walk_eq
    (walks : Walks (leads source v) path 0 (links values fields) ⟨visited, values⟩ trail w)
    (readable : Readable values fields) (legible : Legible (leads source v) trail) :
    walk source v values fields path visited =
      fetchTrail source v depthLimit trail >>= fun _ => pure w := by
  unfold walk
  simp only [followWithin, foldlM_visitField readable]
  exact walks.run legible depthLimit

theorem walks_of_walk (done : (walk source v values fields path visited).result = .ok w) :
    Readable values fields ∧
    ∃ trail, Walks (leads source v) path 0 (links values fields) ⟨visited, values⟩ trail w ∧
      Legible (leads source v) trail ∧ Shallow (leads source v) trail ∧
      walk source v values fields path visited = fetchTrail source v depthLimit trail >>= fun _ =>
        pure w := by
  obtain ⟨trail, w', walks⟩ := exists_walks source v path 0 (links values fields) ⟨visited, values⟩
  have run := done
  unfold walk at run
  simp only [followWithin] at run
  have readable := readable_of_foldlM run
  rw [foldlM_visitField readable] at run
  have legible := walks.legible run
  have told := walks.walk_eq readable legible
  rw [told] at done
  obtain ⟨_, fetched, same⟩ := Outcome.bind_ok_iff.mp done
  rw [Outcome.result_pure, Except.ok.injEq] at same
  subst same
  exact ⟨readable, trail, walks, legible, fits_of_fetchTrail fetched, told⟩

end run

end PageLayers.References
