import PageLayers.Proofs.ComponentChains

/-!
What becomes of layers whose instances are expanded. The components that the expansion is within and
the room that it has left decide whether there is a result, and never what it is. So an instance has
the same children wherever it stands, and layers that are expanded already stay as they are.
-/

namespace PageLayers.Component

/-- The layer stands at a place in which none of the layers around it is an instance. A place tells
    the positions of a layer and of those around it among their siblings, from the outside in. -/
inductive StandsAt (known : List Component) : List Layer → List Nat → Layer → Prop
  | here {layers : List Layer} {n : Nat} {l : Layer} (at_n : layers[n]? = some l) :
      StandsAt known layers [n] l
  | within {layers : List Layer} {n : Nat} {place : List Nat} {around l : Layer}
      (at_n : layers[n]? = some around) (unknown : ofInstance? known around.toElement = none)
      (inside : StandsAt known around.children place l) : StandsAt known layers (n :: place) l

variable {known : List Component}

theorem ofInstance?_congr {e e' : Element} (same : e.componentId = e'.componentId) :
    ofInstance? known e = ofInstance? known e' := by
  unfold ofInstance?
  rw [same]

theorem ofInstance?_nil (e : Element) : ofInstance? [] e = none := by
  unfold ofInstance?
  split
  · rfl
  · simp

theorem mapM_again {f : Layer → Except Failure Layer} {ls ds : List Layer}
    (again : ∀ l d, f l = .ok d → f d = .ok d) (made : ls.mapM f = .ok ds) :
    ds.mapM f = .ok ds := by
  refine exceptMapM_ok_iff.mpr (List.forall₂_same.mpr fun d member => ?_)
  obtain ⟨l, _, makes⟩ := forall₂_mem_right (exceptMapM_ok_iff.mp made) member
  exact again l d makes

theorem mapM_mono {f g : Layer → Except Failure Layer} {ls ds : List Layer}
    (more : ∀ l d, f l = .ok d → g l = .ok d) (made : ls.mapM f = .ok ds) : ls.mapM g = .ok ds :=
  exceptMapM_ok_iff.mpr ((exceptMapM_ok_iff.mp made).imp more)

/-- With more room, and within fewer components, a layer is expanded to the same. -/
theorem expandLayer_mono {room room' : Nat} {chain chain' : List String} {l d : Layer}
    (fewer : chain' ⊆ chain) (roomier : room ≤ room')
    (done : expandLayer known room chain l = .ok d) : expandLayer known room' chain' l = .ok d := by
  induction room generalizing room' chain chain' l d with
  | zero => simp [expandLayer] at done
  | succ room ih =>
    obtain ⟨below, rfl⟩ := Nat.exists_eq_add_of_le' (Nat.le_trans (Nat.le_add_left 1 room) roomier)
    cases found : ofInstance? known l.toElement with
    | some c =>
      obtain ⟨same, fresh, made⟩ := (expandLayer_instance_ok_iff found).mp done
      have fewer_inside : chain' ++ [c.id] ⊆ chain ++ [c.id] :=
        List.append_subset.mpr ⟨List.subset_append_of_subset_left _ fewer, by simp⟩
      exact (expandLayer_instance_ok_iff found).mpr
        ⟨same, fun again => fresh (fewer again),
          mapM_mono (fun _ _ => ih fewer_inside (by omega)) made⟩
    | none =>
      obtain ⟨same, made⟩ := (expandLayer_plain_ok_iff found).mp done
      exact (expandLayer_plain_ok_iff found).mpr
        ⟨same, mapM_mono (fun _ _ => ih fewer (by omega)) made⟩

theorem expandLayer_again {room : Nat} {chain : List String} {l d : Layer}
    (done : expandLayer known room chain l = .ok d) : expandLayer known room chain d = .ok d := by
  induction room generalizing chain l d with
  | zero => simp [expandLayer] at done
  | succ room ih =>
    cases found : ofInstance? known l.toElement with
    | some c =>
      obtain ⟨same, fresh, made⟩ := (expandLayer_instance_ok_iff found).mp done
      exact (expandLayer_instance_ok_iff (same ▸ found)).mpr ⟨rfl, fresh, made⟩
    | none =>
      obtain ⟨same, made⟩ := (expandLayer_plain_ok_iff found).mp done
      exact (expandLayer_plain_ok_iff (same ▸ found)).mpr ⟨rfl, mapM_again (fun _ _ => ih) made⟩

theorem expandLayer_instances {room : Nat} {chain : List String} {l d : Layer}
    (done : expandLayer known room chain l = .ok d) {n : Layer} (inside : n ∈ Layer.preorder d)
    {c : Component} (names : ofInstance? known n.toElement = some c) :
    ∃ below ≤ room, ∃ around, c.layers.mapM (expandLayer known below around) = .ok n.children := by
  induction room generalizing chain l d with
  | zero => simp [expandLayer] at done
  | succ room ih =>
    have deeper : ∀ {ls : List Layer} {chain' : List String},
        ls.mapM (expandLayer known room chain') = .ok d.children →
          n ∈ Layer.preorderForest d.children →
          ∃ below ≤ room + 1, ∃ around,
            c.layers.mapM (expandLayer known below around) = .ok n.children := by
      intro ls chain' made below
      obtain ⟨d, member, inside⟩ := Layer.mem_preorderForest_iff.mp below
      obtain ⟨l, _, makes⟩ := forall₂_mem_right (exceptMapM_ok_iff.mp made) member
      obtain ⟨below, less, around, is⟩ := ih makes inside
      exact ⟨below, by omega, around, is⟩
    cases found : ofInstance? known l.toElement with
    | some c' =>
      obtain ⟨same, _, made⟩ := (expandLayer_instance_ok_iff found).mp done
      rcases Layer.mem_preorder_iff.mp inside with rfl | below
      · rw [same, found, Option.some.injEq] at names
        exact ⟨room, by omega, _, names ▸ made⟩
      · exact deeper made below
    | none =>
      obtain ⟨same, made⟩ := (expandLayer_plain_ok_iff found).mp done
      rcases Layer.mem_preorder_iff.mp inside with rfl | below
      · simp [same, found] at names
      · exact deeper made below

theorem expand_nil (layers : List Layer) : expand [] layers = .ok layers := rfl

theorem expand_of_mapM {room : Nat} {around : List String} {layers inside : List Layer}
    (less : room ≤ expansionLimit) (made : layers.mapM (expandLayer known room around) = .ok inside)
    (nonempty : known ≠ []) : expand known layers = .ok inside := by
  rw [expand, if_neg (by simpa using nonempty)]
  exact mapM_mono (fun _ _ => expandLayer_mono (List.nil_subset around) less) made

/-- The layers are the same outside of instances. -/
def Alike (known : List Component) (l d : Layer) : Prop :=
  ∃ room chain, expandLayer known room chain l = .ok d

theorem Alike.toElement_eq {l d : Layer} (alike : Alike known l d) : d.toElement = l.toElement := by
  obtain ⟨room, chain, done⟩ := alike
  cases room with
  | zero => simp [expandLayer] at done
  | succ room =>
    cases found : ofInstance? known l.toElement with
    | some c => exact ((expandLayer_instance_ok_iff found).mp done).1
    | none => exact ((expandLayer_plain_ok_iff found).mp done).1

theorem Alike.children {l d : Layer} (alike : Alike known l d)
    (unknown : ofInstance? known l.toElement = none) :
    List.Forall₂ (Alike known) l.children d.children := by
  obtain ⟨room, chain, done⟩ := alike
  cases room with
  | zero => simp [expandLayer] at done
  | succ room =>
    have made := exceptMapM_ok_iff.mp ((expandLayer_plain_ok_iff unknown).mp done).2
    exact made.imp fun _ _ done => ⟨room, chain, done⟩

theorem forall₂_getElem? {R : Layer → Layer → Prop} {ls ds : List Layer}
    (related : List.Forall₂ R ls ds) (n : Nat) :
    ls[n]? = none ∧ ds[n]? = none ∨ ∃ l d, ls[n]? = some l ∧ ds[n]? = some d ∧ R l d := by
  induction related generalizing n with
  | nil => exact .inl ⟨rfl, rfl⟩
  | @cons l d ls ds first rest ih =>
    cases n with
    | zero => exact .inr ⟨l, d, rfl, rfl, first⟩
    | succ n => exact ih n

theorem standsAt_cons_iff {ls : List Layer} {n : Nat} {place : List Nat} {l : Layer} :
    StandsAt known ls (n :: place) l ↔ (place = [] ∧ ls[n]? = some l) ∨
      ∃ around, ls[n]? = some around ∧ ofInstance? known around.toElement = none ∧
        StandsAt known around.children place l := by
  constructor
  · rintro (at_n | ⟨at_n, unknown, inside⟩)
    · exact .inl ⟨rfl, at_n⟩
    · exact .inr ⟨_, at_n, unknown, inside⟩
  · rintro (⟨rfl, at_n⟩ | ⟨around, at_n, unknown, inside⟩)
    · exact .here at_n
    · exact .within at_n unknown inside

theorem standsAt_iff_of_alike {ls ds : List Layer} (alike : List.Forall₂ (Alike known) ls ds)
    (place : List Nat) (e : Element) :
    (∃ l, StandsAt known ls place l ∧ l.toElement = e) ↔
      ∃ d, StandsAt known ds place d ∧ d.toElement = e := by
  induction place generalizing ls ds with
  | nil => constructor <;> rintro ⟨_, ⟨⟩, _⟩
  | cons n place ih =>
    simp only [standsAt_cons_iff]
    rcases forall₂_getElem? alike n with ⟨none, none'⟩ | ⟨l, d, at_l, at_d, made⟩
    · simp [none, none']
    · by_cases unknown : ofInstance? known l.toElement = none
      · have inside := ih (made.children unknown)
        simp [at_l, at_d, or_and_right, exists_or, and_assoc, made.toElement_eq, unknown, inside]
      · simp [at_l, at_d, made.toElement_eq, unknown]

/-- Layers that have been expanded are expanded to themselves. Each instance in them has the layers
    that its component expands to on its own, so instances of one component have equal children.
    Outside of instances the same elements stand in the same places before and after. -/
theorem expansion_is_fixed_and_context_free {known : List Component} {layers expanded : List Layer}
    (done : expand known layers = .ok expanded) :
    expand known expanded = .ok expanded ∧
    (∀ n ∈ Layer.preorderForest expanded, ∀ c, ofInstance? known n.toElement = some c →
      expand known c.layers = .ok n.children) ∧
    (∀ n ∈ Layer.preorderForest expanded, ∀ m ∈ Layer.preorderForest expanded,
      (ofInstance? known n.toElement).isSome → n.componentId = m.componentId →
        n.children = m.children) ∧
    (∀ place e, (∃ l, StandsAt known layers place l ∧ l.toElement = e) ↔
      ∃ d, StandsAt known expanded place d ∧ d.toElement = e) := by
  by_cases nonempty : known = []
  · subst nonempty
    obtain rfl := Except.ok.inj ((expand_nil layers).symm.trans done)
    exact ⟨done, by simp [ofInstance?_nil], by simp [ofInstance?_nil], fun _ _ => Iff.rfl⟩
  have made := mapM_of_expand nonempty done
  have each := exceptMapM_ok_iff.mp made
  have instances : ∀ n ∈ Layer.preorderForest expanded, ∀ c, ofInstance? known n.toElement =
    some c →
      expand known c.layers = .ok n.children := by
    intro n member c names
    obtain ⟨d, isRoot, inside⟩ := Layer.mem_preorderForest_iff.mp member
    obtain ⟨l, _, makes⟩ := forall₂_mem_right each isRoot
    obtain ⟨below, less, around, is⟩ := expandLayer_instances makes inside names
    exact expand_of_mapM less is nonempty
  refine ⟨expand_of_mapM (Nat.le_refl _) (mapM_again (fun _ _ => expandLayer_again) made) nonempty,
    instances, ?_, standsAt_iff_of_alike (each.imp fun _ _ done => ⟨_, _, done⟩)⟩
  intro n member m member' isInstance same
  obtain ⟨c, names⟩ := Option.isSome_iff_exists.mp isInstance
  have names' : ofInstance? known m.toElement = some c := ofInstance?_congr same ▸ names
  have equal := (instances n member c names).symm.trans (instances m member' c names')
  exact Except.ok.inj equal

def twoCards : List Layer :=
  [{ id := "box", children := [{ id := "first", componentId := some "card" }] },
    { id := "second", name := "aside", componentId := some "card", children := [{ id := "old" }] }]

def twoCardsExpanded : List Layer :=
  let press : Layer := { id := "press", componentId := some "button" }
  [{ id := "box", children :=
    [{ id := "first", componentId := some "card", children := [press] }] },
    { id := "second", name := "aside", componentId := some "card", children := [press] }]

theorem two_cards_are_alike :
    expand parts twoCards = .ok twoCardsExpanded ∧
    expand parts twoCardsExpanded = .ok twoCardsExpanded ∧
      ∃ d, StandsAt parts twoCardsExpanded [1] d ∧ d.name = "aside" := by
  have done : expand parts twoCards = .ok twoCardsExpanded := by decide +kernel
  obtain ⟨again, _, _, places⟩ := expansion_is_fixed_and_context_free done
  refine ⟨done, again, ?_⟩
  obtain ⟨d, stands, same⟩ := (places [1] _).mp ⟨_, .here rfl, rfl⟩
  exact ⟨d, stands, congrArg Element.name same⟩

end PageLayers.Component
