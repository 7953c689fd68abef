import Mathlib.Data.List.Infix
import PageLayers.Text.Blank
import PageLayers.Text.Pieces

/-!
Texts told apart into pieces. A word whose first character does not come again in it is found where
it was written and nowhere at a seam, whatever text stands before it.
-/

namespace PageLayers

namespace Text
variable {w : Char} {tail cs after : List Char}

/-- Nothing comes after a text but, perhaps, what starts with the given character. -/
def Seam (w : Char) (after : List Char) : Prop := ∀ c ∈ after.head?, c = w

theorem Seam.cons : Seam w (w :: after) := by
  rintro c ⟨⟩
  rfl

theorem prefix_of_seam (once : w ∉ tail) (some : cs ≠ []) (seam : Seam w after)
    (starts : w :: tail <+: cs ++ after) : w :: tail <+: cs := by
  rcases List.prefix_or_prefix_of_prefix starts (List.prefix_append cs after)
    with within | ⟨more, across⟩
  · exact within
  · cases more with
    | nil => exact ⟨[], by simpa using across.symm⟩
    | cons m more =>
      obtain ⟨c, cs, rfl⟩ := List.exists_cons_of_ne_nil some
      rw [List.cons_append, List.cons.injEq] at across
      rw [← across.2, List.cons_append, List.cons_prefix_cons, List.prefix_append_right_inj]
        at starts
      obtain ⟨others, rfl⟩ := starts.2
      rw [← across.2, ← seam m rfl] at once
      simp at once

theorem splitAtWord?_eq (once : w ∉ tail) (absent : ¬ w :: tail <:+: cs) (rest : List Char) :
    splitAtWord? (w :: tail) (cs ++ (w :: tail ++ rest)) = some (cs, rest) := by
  induction cs with
  | nil => simp [splitAtWord?]
  | cons c cs ih =>
    have other : ¬ w :: tail <+: c :: cs ++ (w :: tail ++ rest) := by
      intro starts
      have seam : Seam w (w :: tail ++ rest) := .cons
      exact absent (prefix_of_seam once (List.cons_ne_nil c cs) seam starts).isInfix
    have later : ¬ w :: tail <:+: cs := fun inside =>
      absent (inside.trans (List.suffix_cons c cs).isInfix)
    rw [List.cons_append] at other ⊢
    rw [splitAtWord?, if_neg (by simpa using other), ih later]
    rfl

theorem eq_of_splitAtWord? {word before : List Char}
    (found : splitAtWord? word cs = some (before, after)) : cs = before ++ (word ++ after) := by
  induction cs generalizing before with
  | nil => cases found
  | cons c cs ih =>
    rw [splitAtWord?] at found
    split_ifs at found with starts
    · cases found
      exact (List.prefix_iff_eq_append.mp (List.isPrefixOf_iff_prefix.mp starts)).symm
    · obtain ⟨⟨front, rest⟩, later, same⟩ := Option.map_eq_some_iff.mp found
      cases same
      rw [ih later, List.cons_append]

theorem not_infix_of_splitAtWord? {word before : List Char} (nonempty : word ≠ [])
    (found : splitAtWord? word cs = some (before, after)) : ¬ word <:+: before := by
  induction cs generalizing before with
  | nil => cases found
  | cons c cs ih =>
    rw [splitAtWord?] at found
    split_ifs at found with starts
    · cases found
      simpa using nonempty
    · obtain ⟨⟨front, rest⟩, later, same⟩ := Option.map_eq_some_iff.mp found
      cases same
      rw [List.infix_cons_iff]
      rintro (here | inside)
      · have reaches : c :: front <+: c :: cs := by
          rw [eq_of_splitAtWord? later, List.prefix_cons_inj]
          exact List.prefix_append front _
        exact starts (List.isPrefixOf_iff_prefix.mpr (here.trans reaches))
      · exact ih later inside

theorem splitAtWord?_eq_none_iff {word : List Char} (nonempty : word ≠ []) :
    splitAtWord? word cs = none ↔ ¬ word <:+: cs := by
  induction cs with
  | nil => simpa [splitAtWord?] using nonempty
  | cons c cs ih =>
    rw [splitAtWord?, List.infix_cons_iff, ← List.isPrefixOf_iff_prefix]
    split_ifs with starts
    · simp [starts]
    · rw [Option.map_eq_none_iff, ih]
      simp [starts]

section weave
variable {τ : Type} {place place' : τ → List Char} {first : List Char}
    {parts : List (τ × List Char)}

def weave (place : τ → List Char) (first : List Char) (parts : List (τ × List Char)) : List Char :=
  first ++ parts.flatMap fun part => place part.1 ++ part.2

@[simp] theorem weave_nil (place : τ → List Char) (first : List Char) :
    weave place first [] = first := by simp [weave]

theorem weave_cons (place : τ → List Char) (first : List Char) (t : τ) (literal : List Char)
    (parts : List (τ × List Char)) :
    weave place first ((t, literal) :: parts) =
      first ++ (place t ++ weave place literal parts) := by simp [weave]

theorem weave_append (place : τ → List Char) (first : List Char) (before : List (τ × List Char))
    (t : τ) (literal : List Char)
    (after : List (τ × List Char)) : weave place first (before ++ (t, literal) :: after) =
      weave place first before ++ (place t ++ weave place literal after) := by simp [weave]

theorem weave_congr (same : ∀ part ∈ parts, place part.1 = place' part.1) :
    weave place first parts = weave place' first parts := by
  have each : ∀ part ∈ parts, place part.1 ++ part.2 = place' part.1 ++ part.2 :=
    fun part member => by rw [same part member]
  rw [weave, weave, List.flatMap_congr each]

theorem length_weave_le (atMost : ∀ t, (place t).length ≤ (place' t).length) (first : List Char)
    (parts : List (τ × List Char)) :
    (weave place first parts).length ≤ (weave place' first parts).length := by
  induction parts generalizing first with
  | nil => simp
  | cons part parts ih =>
    have here := atMost part.1
    have rest := ih part.2
    rw [weave_cons, weave_cons]
    simp only [List.length_append]
    omega

theorem length_weave_lt (atMost : ∀ t, (place t).length ≤ (place' t).length) {part : τ × List Char}
    (member : part ∈ parts) (fewer : (place part.1).length < (place' part.1).length) :
    (weave place first parts).length < (weave place' first parts).length := by
  obtain ⟨t, literal⟩ := part
  obtain ⟨before, after, rfl⟩ := List.append_of_mem member
  have front := length_weave_le atMost first before
  have back := length_weave_le atMost literal after
  rw [weave_append, weave_append]
  simp only [List.length_append] at fewer ⊢
  omega

end weave
section pieces
variable {τ : Type} {recognize : List Char → Option (τ × List Char)} {t : τ} {rest : List Char}

/-- Whether what follows a recognized token is shorter than the text. -/
def Shortens (recognize : List Char → Option (τ × List Char)) : Prop :=
  ∀ cs t rest, recognize cs = some (t, rest) → rest.length < cs.length

theorem piecesWithin_eq (shortens : Shortens recognize) {fuel : Nat} {cs : List Char}
    (enough : cs.length ≤ fuel) : piecesWithin recognize fuel cs = pieces recognize cs := by
  suffices any : ∀ {fuel' : Nat}, cs.length ≤ fuel' →
    piecesWithin recognize fuel cs = piecesWithin recognize fuel' cs from
    any (Nat.le_refl _)
  induction fuel generalizing cs with
  | zero =>
    intro fuel' _
    rw [List.length_eq_zero_iff.mp (Nat.le_zero.mp enough)]
    cases fuel' <;> rfl
  | succ fuel ih =>
    intro fuel' enough'
    cases cs with
    | nil => cases fuel' <;> rfl
    | cons c cs =>
      obtain ⟨fuel', rfl⟩ :=
        Nat.exists_eq_succ_of_ne_zero (Nat.ne_of_gt (Nat.lt_of_lt_of_le (Nat.succ_pos _) enough'))
      rw [List.length_cons] at enough enough'
      cases found : recognize (c :: cs) with
      | none =>
        simp only [piecesWithin, found,
          ih (Nat.le_of_succ_le_succ enough) (Nat.le_of_succ_le_succ enough')]
      | some token =>
        obtain ⟨t, rest⟩ := token
        have shorter := shortens _ _ _ found
        rw [List.length_cons] at shorter
        simp only [piecesWithin, found, @ih rest (by omega) fuel' (by omega)]

theorem pieces_literal {c : Char} (none : recognize (c :: cs) = none) :
    pieces recognize (c :: cs) = .literal c :: pieces recognize cs := by
  simp only [pieces, List.length_cons, piecesWithin, none]

theorem pieces_token (shortens : Shortens recognize) (found : recognize cs = some (t, rest)) :
    pieces recognize cs = .token t :: pieces recognize rest := by
  have shorter := shortens _ _ _ found
  cases cs with
  | nil => simp at shorter
  | cons c cs =>
    rw [List.length_cons] at shorter
    rw [pieces, List.length_cons, piecesWithin, found,
      ← piecesWithin_eq shortens (Nat.le_of_lt_succ shorter)]

theorem pieces_literals (free : ∀ ds, ds ≠ [] → ds <:+ cs → recognize (ds ++ after) = none) :
    pieces recognize (cs ++ after) = cs.map .literal ++ pieces recognize after := by
  induction cs with
  | nil => rfl
  | cons c cs ih =>
    have here : recognize (c :: (cs ++ after)) = none :=
      free (c :: cs) (List.cons_ne_nil c cs) List.suffix_rfl
    have later := ih fun ds some within => free ds some (within.trans (List.suffix_cons c cs))
    rw [List.cons_append, pieces_literal here, later]
    rfl

end pieces
section blanks
variable {p : Char → Bool} {word before : List Char}

theorem trimBoth_eq (some : cs ≠ []) (front : ∀ c ∈ before, p c = true)
    (back : ∀ c ∈ after, p c = true)
    (head : ∀ c ∈ cs.head?, p c = false) (last : ∀ c ∈ cs.getLast?, p c = false) :
    trimBoth p (before ++ cs ++ after) = cs := by
  have keep : ∀ {ds rest : List Char}, ds ≠ [] → (∀ c ∈ ds.head?, p c = false) →
      (ds ++ rest).dropWhile p = ds ++ rest := by
    intro ds rest some head
    obtain ⟨d, ds, rfl⟩ := List.exists_cons_of_ne_nil some
    simp [head d rfl]
  rw [trimBoth, List.append_assoc, List.dropWhile_append_of_pos front, keep some head,
    List.reverse_append, List.dropWhile_append_of_pos (by simpa using back),
    ← List.append_nil cs.reverse, keep (by simpa using some) (by simpa using last), List.append_nil,
    List.reverse_reverse]

theorem infix_of_append (plain : ∀ c ∈ word, p c = false) (some : word ≠ [])
    (back : ∀ c ∈ after, p c = true) (inside : word <:+: cs ++ after) : word <:+: cs := by
  have apart : ∀ c ∈ word, c ∉ after := fun c here there => by
    simpa [plain c here] using back c there
  rcases List.infix_append_iff.mp inside with left | right | ⟨l, r, rfl, ends, starts⟩
  · exact left
  · obtain ⟨c, word, rfl⟩ := List.exists_cons_of_ne_nil some
    exact absurd (right.subset List.mem_cons_self) (apart c List.mem_cons_self)
  · cases r with
    | nil =>
      rw [List.append_nil]
      exact ends.isInfix
    | cons c r =>
      exact absurd (starts.subset List.mem_cons_self)
        (apart c (List.mem_append_right l List.mem_cons_self))

theorem infix_of_blanks (plain : ∀ c ∈ word, p c = false) (some : word ≠ [])
    (front : ∀ c ∈ before, p c = true)
    (back : ∀ c ∈ after, p c = true) (inside : word <:+: before ++ cs ++ after) : word <:+: cs := by
  have turned := (infix_of_append plain some back inside).reverse
  rw [List.reverse_append] at turned
  exact List.reverse_infix.mp
    (infix_of_append (by simpa using plain) (by simpa using some) (by simpa using front) turned)

end blanks
end Text
end PageLayers
