import Mathlib.Logic.Relation
import PageLayers.Proofs.Carried

/-!
Components that lead back to themselves. From layers one comes to the components of the instances
in them, from these to those in their layers, and so on. An expansion that enters a component within
itself has come along such a chain.
-/

namespace PageLayers

theorem exceptBind_error_iff {α β : Type} {x : Except Failure α} {next : α → Except Failure β}
    {cause : Failure} :
    (x >>= next) = .error cause ↔ x = .error cause ∨ ∃ a, x = .ok a ∧ next a = .error cause := by
  cases x <;> simp [bind, Except.bind]

theorem exceptPure_error_iff {α : Type} {a : α} {cause : Failure} :
    (pure a : Except Failure α) = .error cause ↔ False := by
  simp [pure, Except.pure]

theorem exceptMap_error_iff {α β : Type} {f : α → β} {x : Except Failure α} {cause : Failure} :
    f <$> x = .error cause ↔ x = .error cause := by
  cases x <;> simp [Functor.map, Except.map]

theorem exists_of_exceptMapM_error {α β : Type} {f : α → Except Failure β} {xs : List α}
    {cause : Failure} (failed : xs.mapM f = .error cause) : ∃ x ∈ xs, f x = .error cause := by
  induction xs with
  | nil => simp [exceptPure_error_iff] at failed
  | cons x xs ih =>
    rw [List.mapM_cons] at failed
    simp only [exceptBind_error_iff, exceptPure_error_iff, and_false, exists_false, or_false]
      at failed
    rcases failed with first | ⟨_, _, later⟩
    · exact ⟨x, List.mem_cons_self, first⟩
    · obtain ⟨y, member, fails⟩ := ih later
      exact ⟨y, List.mem_cons_of_mem x member, fails⟩

namespace Component

/-- An instance of the component stands among the layers or below those of them that are no
    instances themselves. -/
inductive Reaches (known : List Component) : List Layer → Component → Prop
  | here {layers : List Layer} {l : Layer} {c : Component} (member : l ∈ layers)
      (found : ofInstance? known l.toElement = some c) : Reaches known layers c
  | within {layers : List Layer} {l : Layer} {c : Component} (member : l ∈ layers)
      (plain : ofInstance? known l.toElement = none) (inside : Reaches known l.children c) :
      Reaches known layers c

/-- The first component is reached in the layers, and each of the others in the layers of the one
    before it. -/
inductive Chain (known : List Component) : List Layer → List Component → Prop
  | nil {layers : List Layer} : Chain known layers []
  | cons {layers : List Layer} {c : Component} {others : List Component}
      (first : Reaches known layers c) (rest : Chain known c.layers others) :
      Chain known layers (c :: others)

/-- A chain of components leads from the layers to one that stands in the chain before. -/
def Recurs (known : List Component) (layers : List Layer) : Prop :=
  ∃ (chain : List Component) (c : Component),
    Chain known layers (chain ++ [c]) ∧ c.id ∈ chain.map (·.id)

def Holds (known : List Component) (c d : Component) : Prop := Reaches known c.layers d

def ContainsItself (known : List Component) (c : Component) : Prop :=
  Relation.TransGen (Holds known) c c

variable {known : List Component}

theorem eq_of_ofInstance? {e e' : Element} {c c' : Component}
    (found : ofInstance? known e = some c) (found' : ofInstance? known e' = some c')
    (same : c.id = c'.id) : c = c' := by
  have named : ∀ {e : Element} {c : Component}, ofInstance? known e = some c →
      known.reverse.find? (·.id = c.id) = some c := by
    intro e c found
    unfold ofInstance? at found
    split at found
    · simp at found
    · rename_i id _
      split at found
      · simp at found
      · have here : c.id = id := by simpa using List.find?_some found
        rw [here]
        exact found
  have first := named found
  rw [same, named found'] at first
  exact (Option.some.inj first).symm

theorem Reaches.mono {ls ls' : List Layer} {c : Component} (more : ls ⊆ ls')
    (reached : Reaches known ls c) : Reaches known ls' c := by
  cases reached with
  | here member found => exact .here (more member) found
  | within member plain inside => exact .within (more member) plain inside

theorem Reaches.exists_instance {ls : List Layer} {c : Component} (reached : Reaches known ls c) :
    ∃ e, ofInstance? known e = some c := by
  induction reached with
  | here member found => exact ⟨_, found⟩
  | within member plain inside ih => exact ih

theorem Chain.mono {ls ls' : List Layer}
    (reaches : ∀ c, Reaches known ls c → Reaches known ls' c) {chain : List Component}
    (goes : Chain known ls chain) : Chain known ls' chain := by
  cases goes with
  | nil => exact .nil
  | cons first rest => exact .cons (reaches _ first) rest

theorem Chain.after {c : Component} {ls : List Layer} {chain others : List Component}
    (goes : Chain known ls (chain ++ c :: others)) :
    Chain known c.layers others ∧ ∃ e, ofInstance? known e = some c := by
  induction chain generalizing ls with
  | nil =>
    cases goes with
    | cons first rest => exact ⟨rest, first.exists_instance⟩
  | cons d chain ih =>
    cases goes with
    | cons _ rest => exact ih rest

theorem Chain.transGen {c d : Component} {others : List Component}
    (goes : Chain known c.layers (others ++ [d])) : Relation.TransGen (Holds known) c d := by
  induction others generalizing c with
  | nil =>
    cases goes with
    | cons first _ => exact .single first
  | cons b others ih =>
    cases goes with
    | cons first rest => exact .head first (ih rest)

/-- A component to which a chain comes back contains itself. -/
theorem Chain.contains_itself {c : Component} {ls : List Layer} {chain : List Component}
    (goes : Chain known ls (chain ++ [c])) (back : c.id ∈ chain.map (·.id)) :
    c ∈ known ∧ ContainsItself known c := by
  obtain ⟨d, onChain, same⟩ := List.mem_map.mp back
  obtain ⟨before, between, rfl⟩ := List.append_of_mem onChain
  obtain ⟨_, named⟩ := goes.after.2
  rw [List.append_assoc, List.cons_append] at goes
  obtain ⟨further, _, named'⟩ := goes.after
  have equal := eq_of_ofInstance? named' named same
  exact ⟨mem_of_ofInstance? named, (equal ▸ further).transGen⟩

end Component
end PageLayers
