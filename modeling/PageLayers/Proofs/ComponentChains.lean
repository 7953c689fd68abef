import PageLayers.Proofs.ComponentCycles

/-!
When layers can be expanded. Expansion goes down from layer to layer and, at an instance, into the
layers of its component, and has room for so many layers within each other. It fails where it comes
to a component that it is within, or where the room is used up, whichever it meets first; a
component may stand in many places otherwise.
-/

namespace PageLayers.Component

/-- With the instances in them expanded, that many layers come to lie within each other. No
    component is entered within itself. -/
inductive Nests (known : List Component) : List String → List Layer → Nat → Prop
  | here {chain : List String} {layers : List Layer} {l : Layer} (member : l ∈ layers) :
      Nests known chain layers 1
  | entered {chain : List String} {layers : List Layer} {l : Layer} {c : Component} {n : Nat}
      (member : l ∈ layers) (found : ofInstance? known l.toElement = some c)
      (fresh : c.id ∉ chain) (inside : Nests known (chain ++ [c.id]) c.layers n) :
      Nests known chain layers (n + 1)
  | within {chain : List String} {layers : List Layer} {l : Layer} {n : Nat} (member : l ∈ layers)
      (plain : ofInstance? known l.toElement = none) (inside : Nests known chain l.children n) :
      Nests known chain layers (n + 1)

/-- Expanded, the layers would lie deeper within each other than expansion goes. -/
def TooDeep (known : List Component) (layers : List Layer) : Prop :=
  known ≠ [] ∧ Nests known [] layers (expansionLimit + 1)

variable {known : List Component}

theorem Nests.mono {chain : List String} {ls ls' : List Layer} {n : Nat} (more : ls ⊆ ls')
    (nests : Nests known chain ls n) : Nests known chain ls' n := by
  cases nests with
  | here member => exact .here (more member)
  | entered member found fresh inside => exact .entered (more member) found fresh inside
  | within member plain inside => exact .within (more member) plain inside

theorem Nests.exists_succ {chain : List String} {ls : List Layer} {n : Nat}
    (nests : Nests known chain ls n) : ∃ below, n = below + 1 := by
  cases nests <;> exact ⟨_, rfl⟩

theorem singleton_subset {l : Layer} {ls : List Layer} (member : l ∈ ls) : [l] ⊆ ls :=
  List.cons_subset.mpr ⟨member, List.nil_subset ls⟩

/-- A chain of components that leads from the layers to one of those around it, or further on to one
    of its own. -/
def Returns (known : List Component) (around : List String) (layers : List Layer)
    (cause : Failure) : Prop :=
  ∃ (others : List Component) (c : Component), Chain known layers (others ++ [c]) ∧
    c.id ∈ around ++ others.map (·.id) ∧
    cause = .recursiveComponent c.id (around ++ others.map (·.id))

theorem Returns.entered {chain : List String} {c : Component} {ls : List Layer} {cause : Failure}
    (reached : Reaches known ls c) (returns : Returns known (chain ++ [c.id]) c.layers cause) :
    Returns known chain ls cause := by
  obtain ⟨others, d, goes, back, is⟩ := returns
  exact ⟨c :: others, d, .cons reached goes, by simpa using back, by simpa using is⟩

theorem Returns.mono {chain : List String} {ls ls' : List Layer} {cause : Failure}
    (reaches : ∀ c, Reaches known ls c → Reaches known ls' c)
    (returns : Returns known chain ls cause) : Returns known chain ls' cause := by
  obtain ⟨others, d, goes, back, is⟩ := returns
  exact ⟨others, d, goes.mono reaches, back, is⟩

/-- A layer that is not expanded lies deeper than there is room for, or a chain of components leads
    from it to one that the expansion is within. -/
theorem expandLayer_error {cause : Failure} {room : Nat} {chain : List String} {l : Layer}
    (failed : expandLayer known room chain l = .error cause) :
    cause = .tooDeep ∧ Nests known chain [l] (room + 1) ∨ Returns known chain [l] cause := by
  induction room generalizing chain l with
  | zero =>
    rw [expandLayer, Except.error.injEq] at failed
    exact .inl ⟨failed.symm, .here List.mem_cons_self⟩
  | succ room ih =>
    obtain ⟨e, children⟩ := l
    unfold expandLayer at failed
    cases found : ofInstance? known e with
    | some c =>
      have reached : Reaches known [⟨e, children⟩] c := .here List.mem_cons_self found
      simp only [found] at failed
      split at failed
      · rename_i again
        rw [Except.error.injEq] at failed
        refine .inr ⟨[], c, .cons reached .nil, by simpa using again, by simp [failed]⟩
      · rename_i fresh
        simp only [exceptBind_error_iff, exceptPure_error_iff, and_false, exists_false, or_false]
          at failed
        obtain ⟨d, member, fails⟩ := exists_of_exceptMapM_error failed
        rcases ih fails with ⟨deep, nests⟩ | returns
        · have inside := nests.mono (singleton_subset member)
          exact .inl ⟨deep, .entered List.mem_cons_self found (by simpa using fresh) inside⟩
        · have inside := returns.mono fun _ => .mono (singleton_subset member)
          exact .inr (inside.entered reached)
    | none =>
      simp only [found, exceptBind_error_iff, exceptPure_error_iff, and_false, exists_false,
        or_false] at failed
      obtain ⟨d, member, fails⟩ := exists_of_exceptMapM_error failed
      rcases ih fails with ⟨deep, nests⟩ | returns
      · have inside := nests.mono (singleton_subset member)
        exact .inl ⟨deep, .within List.mem_cons_self found inside⟩
      · refine .inr (returns.mono fun _ reached => ?_)
        exact .within List.mem_cons_self found (reached.mono (singleton_subset member))

theorem exists_of_exceptMapM_ok {α β : Type} {f : α → Except Failure β} {xs : List α}
    {ys : List β} (made : xs.mapM f = .ok ys) {x : α} (member : x ∈ xs) : ∃ y, f x = .ok y := by
  obtain ⟨y, _, makes⟩ := forall₂_mem_right (exceptMapM_ok_iff.mp made).flip member
  exact ⟨y, makes⟩

theorem Nests.not_expanded {room : Nat} {chain : List String} {ls ds : List Layer}
    (nests : Nests known chain ls (room + 1)) :
    ls.mapM (expandLayer known room chain) ≠ .ok ds := by
  intro done
  generalize deep : room + 1 = n at nests
  induction nests generalizing room ds with
  | here member =>
    obtain ⟨_, made⟩ := exists_of_exceptMapM_ok done member
    obtain rfl : room = 0 := by omega
    simp [expandLayer] at made
  | @entered _ _ _ _ n member found _ nests ih =>
    obtain ⟨_, made⟩ := exists_of_exceptMapM_ok done member
    obtain ⟨below, rfl⟩ := nests.exists_succ
    obtain rfl : room = below + 1 := by omega
    exact ih ((expandLayer_instance_ok_iff found).mp made).2.2 rfl
  | within member plain nests ih =>
    obtain ⟨_, made⟩ := exists_of_exceptMapM_ok done member
    obtain ⟨below, rfl⟩ := nests.exists_succ
    obtain rfl : room = below + 1 := by omega
    exact ih ((expandLayer_plain_ok_iff plain).mp made).2 rfl

theorem Reaches.expanded {chain : List String} {c : Component} {ls : List Layer}
    (reached : Reaches known ls c) {room : Nat} {ds : List Layer}
    (done : ls.mapM (expandLayer known room chain) = .ok ds) :
    c.id ∉ chain ∧ ∃ below inside,
      c.layers.mapM (expandLayer known below (chain ++ [c.id])) = .ok inside := by
  induction reached generalizing room ds with
  | here member found =>
    obtain ⟨_, made⟩ := exists_of_exceptMapM_ok done member
    cases room with
    | zero => simp [expandLayer] at made
    | succ below =>
      obtain ⟨_, fresh, inside⟩ := (expandLayer_instance_ok_iff found).mp made
      exact ⟨fresh, below, _, inside⟩
  | within member plain _ ih =>
    obtain ⟨_, made⟩ := exists_of_exceptMapM_ok done member
    cases room with
    | zero => simp [expandLayer] at made
    | succ below => exact ih ((expandLayer_plain_ok_iff plain).mp made).2

theorem Chain.not_expanded {c : Component} {others : List Component} {chain : List String}
    {ls ds : List Layer} {room : Nat} (goes : Chain known ls (others ++ [c]))
    (back : c.id ∈ chain ++ others.map (·.id)) :
    ls.mapM (expandLayer known room chain) ≠ .ok ds := by
  induction others generalizing chain ls ds room with
  | nil =>
    intro done
    cases goes with
    | cons first _ => exact (first.expanded done).1 (by simpa using back)
  | cons d others ih =>
    intro done
    cases goes with
    | cons first rest =>
      obtain ⟨_, below, inside, made⟩ := first.expanded done
      exact ih rest (by simpa using back) made

theorem expand_error {layers : List Layer} {cause : Failure}
    (failed : expand known layers = .error cause) :
    cause = .tooDeep ∧ TooDeep known layers ∨ Returns known [] layers cause := by
  unfold expand at failed
  split at failed
  · simp at failed
  · rename_i nonempty
    obtain ⟨l, member, fails⟩ := exists_of_exceptMapM_error failed
    rcases expandLayer_error fails with ⟨deep, nests⟩ | returns
    · have inside := nests.mono (singleton_subset member)
      exact .inl ⟨deep, by simpa using nonempty, inside⟩
    · exact .inr (returns.mono fun _ => .mono (singleton_subset member))

theorem Returns.recurs {layers : List Layer} {cause : Failure}
    (returns : Returns known [] layers cause) : Recurs known layers := by
  obtain ⟨others, c, goes, back, _⟩ := returns
  exact ⟨others, c, goes, by simpa using back⟩

theorem Returns.violation {around : List String} {layers : List Layer} {cause : Failure}
    (returns : Returns known around layers cause) : cause.isViolation = true := by
  obtain ⟨_, _, _, _, rfl⟩ := returns
  rfl

theorem mapM_of_expand {layers expanded : List Layer} (nonempty : known ≠ [])
    (done : expand known layers = .ok expanded) :
    layers.mapM (expandLayer known expansionLimit []) = .ok expanded := by
  rwa [expand, if_neg (by simpa using nonempty)] at done

theorem Recurs.not_expanded {layers expanded : List Layer} (recurs : Recurs known layers) :
    expand known layers ≠ .ok expanded := by
  obtain ⟨chain, c, goes, back⟩ := recurs
  have nonempty : known ≠ [] := by
    obtain ⟨_, named⟩ := goes.after.2
    exact List.ne_nil_of_mem (mem_of_ofInstance? named)
  exact fun done => goes.not_expanded (by simpa using back) (mapM_of_expand nonempty done)

theorem TooDeep.not_expanded {layers expanded : List Layer} (deep : TooDeep known layers) :
    expand known layers ≠ .ok expanded :=
  fun done => deep.2.not_expanded (mapM_of_expand deep.1 done)

/-- Expansion gives layers exactly where no components recur and nothing lies deeper than it goes.
    It fails with a violation only where components recur, and for want of room only where layers
    lie too deep; where they do not, it fails with a violation exactly if components recur. -/
theorem expansion_fails_iff_components_recur (known : List Component) (layers : List Layer) :
    ((∃ expanded, expand known layers = .ok expanded) ↔
      ¬ Recurs known layers ∧ ¬ TooDeep known layers) ∧
    (∀ cause, expand known layers = .error cause →
      cause.isViolation = true ∧ Recurs known layers ∨
        cause = .tooDeep ∧ TooDeep known layers) ∧
    (¬ TooDeep known layers →
      ((∃ cause, expand known layers = .error cause ∧ cause.isViolation = true) ↔
        Recurs known layers)) := by
  have fails : ∀ cause, expand known layers = .error cause →
      cause.isViolation = true ∧ Recurs known layers ∨
        cause = .tooDeep ∧ TooDeep known layers := by
    intro cause failed
    rcases expand_error failed with deep | returns
    · exact .inr deep
    · exact .inl ⟨returns.violation, returns.recurs⟩
  refine ⟨⟨?_, ?_⟩, fails, fun shallow => ⟨?_, ?_⟩⟩
  · rintro ⟨expanded, done⟩
    exact ⟨fun recurs => recurs.not_expanded done, fun deep => deep.not_expanded done⟩
  · rintro ⟨flat, shallow⟩
    cases done : expand known layers with
    | ok expanded => exact ⟨expanded, rfl⟩
    | error cause =>
      rcases fails cause done with ⟨_, recurs⟩ | ⟨_, deep⟩
      · exact absurd recurs flat
      · exact absurd deep shallow
  · rintro ⟨cause, failed, violation⟩
    rcases fails cause failed with ⟨_, recurs⟩ | ⟨_, deep⟩
    · exact recurs
    · exact absurd deep shallow
  · intro recurs
    cases done : expand known layers with
    | ok expanded => exact absurd done recurs.not_expanded
    | error cause =>
      rcases fails cause done with ⟨violation, _⟩ | ⟨_, deep⟩
      · exact ⟨cause, rfl, violation⟩
      · exact absurd deep shallow

def parts : List Component :=
  [{ id := "button" },
    { id := "card", layers := [{ id := "press", componentId := some "button" }] },
    { id := "tree"
      layers := [{ id := "fork", children := [{ id := "branch", componentId := some "tree" }] }] }]

def card : Layer := { id := "first", componentId := some "card" }

def tree : Layer := { id := "oak", componentId := some "tree" }

theorem cards_expand_and_trees_recur :
    (¬ Recurs parts [card, card] ∧ ¬ TooDeep parts [card, card]) ∧ Recurs parts [tree] := by
  constructor
  · have expands : (expand parts [card, card]).isOk = true := by decide +kernel
    refine (expansion_fails_iff_components_recur parts [card, card]).1.mp ?_
    cases found : expand parts [card, card] with
    | ok expanded => exact ⟨expanded, rfl⟩
    | error cause => simp [found, Except.isOk, Except.toBool] at expands
  · have fails : expand parts [tree] = .error (.recursiveComponent "tree" ["tree"]) := by
      decide +kernel
    rcases (expansion_fails_iff_components_recur parts [tree]).2.1 _ fails with
      ⟨_, recurs⟩ | ⟨other, _⟩
    · exact recurs
    · cases other

def boxed (id : String) : Nat → Layer
  | 0 => { id := "inner", componentId := some id }
  | n + 1 => { id := "box", children := [boxed id n] }

/-- Three components, each with an instance of the next one far down in it. -/
def ring : List Component :=
  [{ id := "a", layers := [boxed "b" 200] }, { id := "b", layers := [boxed "c" 200] },
    { id := "c", layers := [boxed "a" 200] }]

theorem reaches_boxed {id : String} {c : Component}
    (found : ofInstance? known { id := "inner", componentId := some id } = some c) (n : Nat) :
    Reaches known [boxed id n] c := by
  induction n with
  | zero => exact .here List.mem_cons_self found
  | succ n ih => exact .within List.mem_cons_self rfl ih

theorem deep_ring_is_not_noticed :
    Recurs ring [boxed "a" 0] ∧ expand ring [boxed "a" 0] = .error .tooDeep := by
  refine ⟨⟨[⟨"a", "", [boxed "b" 200]⟩, ⟨"b", "", [boxed "c" 200]⟩, ⟨"c", "", [boxed "a" 200]⟩],
    ⟨"a", "", [boxed "b" 200]⟩, ?_, List.mem_cons_self⟩, ?_⟩
  · exact .cons (reaches_boxed rfl _) (.cons (reaches_boxed rfl _) (.cons (reaches_boxed rfl _)
      (.cons (reaches_boxed rfl _) .nil)))
  · decide +kernel

end PageLayers.Component
