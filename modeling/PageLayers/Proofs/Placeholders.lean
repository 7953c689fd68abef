import PageLayers.Collection.Given
import PageLayers.Layer.Placeholder
import PageLayers.Proofs.Pieces

/-!
Custom code with placeholders between literals. Each placeholder that goes by the name of a field
becomes the value of the last such field, whatever the value has in it, and all else stays. An item
without any values is an exception: it counts as no item, so that its fields are not known to be
empty.
-/

namespace PageLayers.Placeholder

/-- A name as it stands in a placeholder, perhaps with blanks around it. -/
structure Name where
  text : String
  nonempty : text ≠ ""
  plain : '{' ∉ text.toList ∧ '}' ∉ text.toList

namespace Name

def written (n : Name) : List Char := source n.text.toList

def key (n : Name) : String := Text.strip n.text

end Name

def LastNamed (fields : List Field) (name : String) (f : Field) : Prop :=
  ∃ before after, fields = before ++ f :: after ∧ f.name = name ∧ ∀ g ∈ after, g.name ≠ name

/-- What is to stand in the place of a placeholder: the value of the last field of its name, which
    is empty if there is none; and where no field goes by the name, the placeholder. -/
structure Shows (values : Values) (fields : List Field) (n : Name) (shown : List Char) : Prop where
  known : ∀ f, LastNamed fields n.key f → shown = ((values.lookup f.id).getD "").toList
  unknown : (∀ f ∈ fields, f.name ≠ n.key) → shown = n.written

variable {fields : List Field} {name : String}

theorem fieldNamed?_eq_some_iff {f : Field} : fieldNamed? fields name = some f ↔
    LastNamed fields name f := by
  rw [fieldNamed?, List.find?_eq_some_iff_append]
  constructor
  · rintro ⟨named, after, before, split, others⟩
    refine ⟨before.reverse, after.reverse, ?_, by simpa using named, fun g member => ?_⟩
    · simpa using congrArg List.reverse split
    · simpa using others g (List.mem_reverse.mp member)
  · rintro ⟨before, after, rfl, named, others⟩
    exact ⟨by
      simpa using named, after.reverse, before.reverse, by
        simp, fun g member => by simpa using others g (List.mem_reverse.mp member)⟩

theorem fieldNamed?_eq_none_iff : fieldNamed? fields name = none ↔ ∀ f ∈ fields, f.name ≠ name := by
  simp [fieldNamed?]

theorem recognize_written (n : Name) (rest : List Char) : recognize (n.written ++ rest) =
    some (n.text.toList, rest) := by
  have inside : ∀ c ∈ n.text.toList, decide (c ≠ '}') = true := by
    intro c member
    rw [decide_eq_true_iff]
    rintro rfl
    exact n.plain.2 member
  have shape : n.written ++ rest = '{' :: '{' :: (n.text.toList ++ '}' :: '}' :: rest) := by
    simp [Name.written, source]
  have front : (n.text.toList ++ '}' :: '}' :: rest).takeWhile (· ≠ '}') = n.text.toList := by
    rw [List.takeWhile_append_of_pos inside]
    simp
  have behind : (n.text.toList ++ '}' :: '}' :: rest).dropWhile (· ≠ '}') = '}' :: '}' :: rest := by
    rw [List.dropWhile_append_of_pos inside]
    simp
  have some : n.text.toList ≠ [] := by simpa using n.nonempty
  obtain ⟨c, cs, name⟩ := List.exists_cons_of_ne_nil some
  rw [shape, recognize, front, behind, name]
  rfl

theorem recognize_literal {cs after : List Char} (some : cs ≠ []) (plain : '{' ∉ cs) :
    recognize (cs ++ after) = none := by
  obtain ⟨c, cs, rfl⟩ := List.exists_cons_of_ne_nil some
  have other : c ≠ '{' := fun same => plain (same ▸ List.mem_cons_self)
  rw [List.cons_append]
  unfold recognize
  split
  · rename_i opens
    exact absurd (List.cons.inj opens).1 other
  · rfl

theorem recognize_shortens : Text.Shortens recognize := by
  intro cs name rest found
  unfold recognize at found
  split at found
  · rename_i inner
    dsimp only at found
    split at found
    · cases found
    · rename_i closes _
      cases found
      have fewer := (List.dropWhile_sublist (fun c => decide (c ≠ '}')) (l := inner)).length_le
      rw [closes] at fewer
      simp only [List.length_cons] at fewer ⊢
      omega
    · cases found
  · cases found

theorem flatMap_shown_literals (values : Given) (fields : List Field) (cs : List Char) :
    (cs.map Text.Piece.literal).flatMap (shown values fields) = cs := by
  induction cs with
  | nil => rfl
  | cons c cs ih => exact congrArg (c :: ·) ih

def Name.shown (values : Values) (fields : List Field) (n : Name) : List Char :=
  replacement (Given.ofValues values) fields n.text.toList

theorem Name.shows (values : Values) (fields : List Field) (n : Name) :
    Shows values fields n (n.shown values fields) where
  known f last := by
    have found : fieldNamed? fields (.ofList (Text.trimBoth Text.isBlank n.text.toList)) = some f :=
      fieldNamed?_eq_some_iff.mpr last
    rw [shown, replacement, found]
    dsimp only
    rw [Given.lookup_ofValues]
    cases values.lookup f.id <;> rfl
  unknown absent := by
    have missing : fieldNamed? fields (.ofList (Text.trimBoth Text.isBlank n.text.toList)) = none :=
      fieldNamed?_eq_none_iff.mpr absent
    rw [shown, replacement, missing]
    rfl

theorem pieces_literals {cs after : List Char} (plain : '{' ∉ cs) :
    Text.pieces recognize (cs ++ after) = cs.map .literal ++ Text.pieces recognize after :=
  Text.pieces_literals fun _ some within => recognize_literal some fun inside =>
    plain (within.subset inside)

theorem flatMap_shown_weave (values : Values) (fields : List Field) {first : List Char}
    {parts : List (Name × List Char)}
    (plain : ∀ literal ∈ first :: parts.map (·.2), '{' ∉ literal) :
    (Text.pieces recognize (Text.weave Name.written first parts)).flatMap
      (shown (Given.ofValues values) fields) =
      Text.weave (Name.shown values fields) first parts := by
  have absent := plain first List.mem_cons_self
  induction parts generalizing first with
  | nil =>
    have literals : Text.pieces recognize (first ++ []) = first.map .literal ++
      Text.pieces recognize [] := pieces_literals absent
    rw [List.append_nil] at literals
    rw [Text.weave_nil, Text.weave_nil, literals, List.flatMap_append, flatMap_shown_literals]
    exact List.append_nil first
  | cons part parts ih =>
    obtain ⟨n, literal⟩ := part
    obtain ⟨-, others⟩ := List.forall_mem_cons.mp plain
    rw [List.map_cons] at others
    have rest := ih others (others literal List.mem_cons_self)
    rw [Text.weave_cons, Text.weave_cons, pieces_literals absent, List.flatMap_append,
      flatMap_shown_literals, Text.pieces_token recognize_shortens (recognize_written n _),
      List.flatMap_cons, rest]
    rfl

theorem Name.length_shown_nil_le (fields : List Field) (n : Name) : (n.shown [] fields).length ≤
    n.written.length := by
  obtain ⟨known, unknown⟩ := n.shows [] fields
  cases found : fieldNamed? fields n.key with
  | none => rw [unknown (fieldNamed?_eq_none_iff.mp found)]
  | some f =>
    rw [known f (fieldNamed?_eq_some_iff.mp found)]
    exact Nat.zero_le _

theorem weave_shown_nil_eq_iff (fields : List Field) (first : List Char)
    (parts : List (Name × List Char)) :
    Text.weave Name.written first parts = Text.weave (Name.shown [] fields) first parts ↔
      ∀ part ∈ parts, ∀ f ∈ fields, f.name ≠ part.1.key := by
  constructor
  · intro same part member
    rw [← fieldNamed?_eq_none_iff]
    by_contra known
    obtain ⟨f, found⟩ := Option.ne_none_iff_exists'.mp known
    have empty : part.1.shown [] fields = [] :=
      (part.1.shows [] fields).known f (fieldNamed?_eq_some_iff.mp found)
    have fewer : (part.1.shown [] fields).length < part.1.written.length := by
      simp [empty, Name.written, source]
    have shorter :
      (Text.weave (Name.shown [] fields) first parts).length <
        (Text.weave Name.written first parts).length :=
      Text.length_weave_lt (Name.length_shown_nil_le fields) member fewer
    exact Nat.ne_of_gt shorter (congrArg List.length same)
  · intro unknown
    exact Text.weave_congr fun part member =>
      ((part.1.shows [] fields).unknown (unknown part member)).symm

theorem resolve_empty (fields : List Field) (code : String) :
    resolve (some (Given.ofValues [])) fields code = code := rfl

theorem resolve_weave {values : Values} (valued : values ≠ []) (fields : List Field)
    {first : List Char} {parts : List (Name × List Char)}
    (plain : ∀ literal ∈ first :: parts.map (·.2), '{' ∉ literal) :
    resolve (some (Given.ofValues values)) fields (.ofList (Text.weave Name.written first parts)) =
      .ofList (Text.weave (Name.shown values fields) first parts) := by
  obtain ⟨value, others, rfl⟩ := List.exists_cons_of_ne_nil valued
  cases fields with
  | nil =>
    have unknown : Text.weave Name.written first parts =
      Text.weave (Name.shown (value :: others) []) first parts :=
      Text.weave_congr fun part _ => ((part.1.shows (value :: others) []).unknown (by simp)).symm
    rw [← unknown]
    rfl
  | cons f fields =>
    have pieces := flatMap_shown_weave (value :: others) (f :: fields) plain
    rw [← pieces]
    change String.ofList ((Text.pieces recognize (String.toList (.ofList _))).flatMap _) = _
    rw [String.toList_ofList]

/-- Placeholders become the values of the last fields of their names, and nothing else changes, for
    an item with any values. For an item without values code stays as it is, which comes to the same
    exactly if no placeholder goes by the name of a field. -/
theorem placeholders_show_last_fields_iff (values : Values) (fields : List Field)
    (first : List Char) (parts : List (Name × List Char))
    (plain : ∀ literal ∈ first :: parts.map (·.2), '{' ∉ literal) :
    ∃ shown : Name → List Char, (∀ n, Shows values fields n (shown n)) ∧
      (resolve (some (Given.ofValues values)) fields
        (.ofList (Text.weave Name.written first parts)) =
          .ofList (Text.weave shown first parts) ↔
        values ≠ [] ∨ ∀ part ∈ parts, ∀ f ∈ fields, f.name ≠ part.1.key) ∧
      ∀ code, resolve (some (Given.ofValues [])) fields code = code := by
  refine ⟨Name.shown values fields, Name.shows values fields, ?_, resolve_empty fields⟩
  by_cases valued : values = []
  · subst valued
    rw [resolve_empty, String.ofList_inj, weave_shown_nil_eq_iff]
    simp
  · simp [resolve_weave valued fields plain, valued]

def titles : List Field := [{ id := "old", name := "Title" }, { id := "title", name := "Title" }]

def title : Name := ⟨" Title\t", by decide, by decide⟩

def author : Name := ⟨"Author", by decide, by decide⟩

theorem last_title_is_shown :
    (∀ literal ∈ ["[".toList, "\x7d] by ".toList, ".".toList], '{' ∉ literal) ∧
      resolve (some (Given.ofValues [("old", "Draft"), ("title", "\x7b\x7bTitle\x7d\x7d")])) titles
          "[\x7b\x7b Title\t\x7d\x7d\x7d] by \x7b\x7bAuthor\x7d\x7d." =
        "[\x7b\x7bTitle\x7d\x7d\x7d] by \x7b\x7bAuthor\x7d\x7d." := by
  have plain : ∀ literal ∈ "[".toList ::
    [(title, "\x7d] by ".toList), (author, ".".toList)].map (·.2), '{' ∉ literal := by decide
  obtain ⟨shown, shows, resolved, -⟩ := placeholders_show_last_fields_iff
    [("old", "Draft"), ("title", "\x7b\x7bTitle\x7d\x7d")] titles "[".toList
      [(title, "\x7d] by ".toList), (author, ".".toList)] plain
  have last : shown title = "\x7b\x7bTitle\x7d\x7d".toList :=
    (shows title).known { id := "title", name := "Title" }
      ⟨[{ id := "old", name := "Title" }], [], rfl, by decide, by simp⟩
  have absent : shown author = author.written := (shows author).unknown (by decide)
  refine ⟨plain, ?_⟩
  have whole := resolved.mpr (.inl (by simp))
  simp only [Text.weave, List.flatMap_cons, List.flatMap_nil, last, absent] at whole
  exact whole

/-- For an item without any values a placeholder stays, although the field that it names has no
    value. -/
theorem known_title_is_kept :
    LastNamed titles title.key { id := "title", name := "Title" } ∧
    (([] : Values).lookup "title").getD "" = "" ∧
      resolve (some (Given.ofValues [])) titles "[\x7b\x7b Title\t\x7d\x7d]" =
        "[\x7b\x7b Title\t\x7d\x7d]" :=
  ⟨⟨[{ id := "old", name := "Title" }], [], rfl, by decide, by simp⟩, rfl, rfl⟩

end PageLayers.Placeholder
