import PageLayers.Layer.Injection
import PageLayers.Proofs.JsonText
import PageLayers.Proofs.Pieces

/-!
Inline tokens show what bindings to fields show. The first character of a tag does not come again in
it, so that a token is recognized where it was written, and JSON text is read back between the tags.
What a token is replaced by is not scanned.
-/

namespace PageLayers.Token

theorem openTag_eq : ∃ tail, openTag = '<' :: tail ∧ '<' ∉ tail := ⟨openTag.tail, rfl, by decide⟩

theorem closeTag_eq : ∃ tail, closeTag = '<' :: tail ∧ '<' ∉ tail := ⟨closeTag.tail, rfl, by decide⟩

theorem recognize_source {payload : List Char} (closes : ¬ closeTag <:+: payload)
    (rest : List Char) : recognize (source payload ++ rest) = some (payload, rest) := by
  obtain ⟨tail, shape, once⟩ := closeTag_eq
  rw [recognize, source, List.append_assoc, List.append_assoc, if_pos (by simp), List.drop_left]
  rw [shape] at closes ⊢
  exact Text.splitAtWord?_eq once closes rest

theorem recognize_literal {c : Char} {cs after : List Char} (absent : ¬ openTag <:+: c :: cs)
    (seam : Text.Seam '<' after) : recognize (c :: cs ++ after) = none := by
  obtain ⟨tail, shape, once⟩ := openTag_eq
  have other : ¬ openTag <+: c :: cs ++ after := by
    rw [shape] at absent ⊢
    exact fun starts =>
      absent (Text.prefix_of_seam once (List.cons_ne_nil c cs) seam starts).isInfix
  rw [recognize, if_neg (by simpa using other)]

theorem recognize_shortens : Text.Shortens recognize := by
  intro cs payload rest found
  unfold recognize at found
  split_ifs at found with opens
  have shape := congrArg List.length (Text.eq_of_splitAtWord? found)
  have closing : 0 < closeTag.length := by decide
  simp only [List.length_drop, List.length_append] at shape
  omega

theorem pieces_literals {cs after : List Char} (absent : ¬ openTag <:+: cs)
    (seam : Text.Seam '<' after) :
    Text.pieces recognize (cs ++ after) = cs.map .literal ++ Text.pieces recognize after := by
  refine Text.pieces_literals fun ds some within => ?_
  obtain ⟨d, ds, rfl⟩ := List.exists_cons_of_ne_nil some
  exact recognize_literal (fun inside => absent (inside.trans within.isInfix)) seam

theorem joinPieces_literals (values : Values) (cs : List Char)
    (ps : List (Text.Piece (List Char))) :
    joinPieces values (cs.map .literal ++ ps) = (cs ++ ·) <$> joinPieces values ps := by
  induction cs with
  | nil =>
    rw [List.map_nil, List.nil_append]
    cases joinPieces values ps <;> rfl
  | cons c cs ih =>
    rw [List.map_cons, List.cons_append, joinPieces, ih]
    cases joinPieces values ps <;> rfl

theorem texts_map (ss : List String) : texts (ss.map .text) = .ok ss := by
  induction ss with
  | nil => rfl
  | cons s ss ih =>
    rw [List.map_cons, texts, ih]
    rfl

structure Describes (j : Json) (fieldId : String) (followed : List String) : Prop where
  kind : j.member? "type" = some (.text "field")
  data : ∃ data, j.member? "data" = some (.object data) ∧
    data.lookup "field_id" = some (.text fieldId) ∧
    (data.lookup "relationships" = some (.array (followed.map .text)) ∨
      data.lookup "relationships" ∈ [none, some .null] ∧ followed = [])
  named : fieldId ≠ ""

theorem relationships_eq {data : List (String × Json)} {followed : List String}
    (given : data.lookup "relationships" = some (.array (followed.map .text)) ∨
      data.lookup "relationships" ∈ [none, some .null] ∧ followed = []) :
    relationships data = .ok (followed.map .text) := by
  unfold relationships
  rcases given with list | ⟨absent, rfl⟩
  · rw [list]
    cases followed <;> rfl
  · simp only [List.mem_cons, List.not_mem_nil, or_false] at absent
    rcases absent with absent | absent <;> rw [absent] <;> rfl

theorem Describes.jsonPath {j : Json} {fieldId : String} {followed : List String}
    (describes : Describes j fieldId followed) :
    jsonPath j = .ok (some (".".intercalate (fieldId :: followed))) := by
  obtain ⟨kind, ⟨data, member, field, given⟩, named⟩ := describes
  have truthy : (Json.text fieldId).isTruthy = true := by simpa [Json.isTruthy] using named
  have listed : texts (.text fieldId :: followed.map .text) = .ok (fieldId :: followed) :=
    texts_map (fieldId :: followed)
  simp [Token.jsonPath, kind, member, dataPath, field, truthy, relationships_eq given, listed, bind,
    Except.bind, pure, Except.pure]

/-- A token as it is written for a field: the JSON text of what describes the field, perhaps with
    blanks around it. -/
structure FieldToken where
  fieldId : String
  followed : List String
  json : Json
  before : List Char
  after : List Char
  describes : Describes json fieldId followed
  -- A field with the fields to follow is never too deep; this is about what may stand beside them.
  legible : Json.Legible Json.depthLimit json
  blank : ∀ c ∈ before ++ after, Text.isBlank c = true
  closes : ¬ closeTag <:+: json.renderChars

namespace FieldToken

def payload (t : FieldToken) : List Char := t.before ++ t.json.renderChars ++ t.after

def text (t : FieldToken) : String := .ofList (source t.payload)

def binding (t : FieldToken) (fieldType : Option FieldType) (format : Option String) :
    FieldBinding :=
  { fieldId := t.fieldId, relationships := t.followed, fieldType, format }

def shown (values : Values) (t : FieldToken) :
    String := (values.lookup (".".intercalate (t.fieldId :: t.followed))).getD ""

variable (t : FieldToken)

theorem payload_closes : ¬ closeTag <:+: t.payload := by
  have visible : closeTag.all (fun c => !Text.isBlank c) = true := by decide
  have plain : ∀ c ∈ closeTag, Text.isBlank c = false := fun c member => by
    simpa using List.all_eq_true.mp visible c member
  have some : closeTag ≠ [] := by decide
  exact fun inside =>
    t.closes
      (Text.infix_of_blanks plain some (fun c member => t.blank c (List.mem_append_left _ member))
    (fun c member => t.blank c (List.mem_append_right _ member)) inside)

theorem jsonText_payload : jsonText t.payload = t.json.renderChars := by
  have ends : ∃ inside, t.json.renderChars = '{' :: inside ++ ['}'] := by
    obtain ⟨data, member, -⟩ := t.describes.data
    cases object : t.json with
    | object ms => exact ⟨_, rfl⟩
    | _ => simp [object, Json.member?] at member
  obtain ⟨inside, shape⟩ := ends
  rw [jsonText, payload, shape]
  refine Text.trimBoth_eq (List.cons_ne_nil _ _)
    (fun c member => t.blank c (List.mem_append_left _ member))
    (fun c member => t.blank c (List.mem_append_right _ member)) ?_ ?_
  · rintro c ⟨⟩
    decide
  · intro c last
    rw [List.getLast?_append] at last
    cases last
    decide

theorem path_payload : path t.payload = .ok (some (".".intercalate (t.fieldId :: t.followed))) := by
  rw [path, jsonText_payload, Json.readStored?, Json.readWithin_renderChars t.legible]
  exact t.describes.jsonPath

theorem replacement_payload (values : Values) : replacement values t.payload =
    .ok (t.shown values).toList := by
  rw [replacement, path_payload]
  rfl

theorem inject_binding (values : Values) {fieldType : Option FieldType}
    (shows : fieldType.any FieldType.isAsset = false)
    (format : Option String) : (SlotValue.field (t.binding fieldType format)).inject values =
      .ok (.static (t.shown values)) := by
  simp [SlotValue.inject, binding, shows, shown, FieldBinding.path]

end FieldToken

/-- The text of a first literal and of tokens each followed by a literal, with something in the
    place of each token. -/
def weave (place : FieldToken → String) (first : String) (parts : List (FieldToken × String)) :
    String :=
  first ++ String.join (parts.map fun (token, literal) => place token ++ literal)

theorem weave_cons (place : FieldToken → String) (first : String) (token : FieldToken)
    (literal : String) (parts : List (FieldToken × String)) :
    weave place first ((token, literal) :: parts) =
      first ++ (place token ++ weave place literal parts) := by
  rw [weave, weave, List.map_cons, String.join_cons, String.append_assoc]

theorem joinPieces_weave (values : Values) {first : String} {parts : List (FieldToken × String)}
    (plain : ∀ literal ∈ first :: parts.map (·.2), ¬ openTag <:+: literal.toList) :
    joinPieces values (Text.pieces recognize (weave FieldToken.text first parts).toList) =
      .ok (weave (FieldToken.shown values) first parts).toList := by
  have absent := plain first List.mem_cons_self
  induction parts generalizing first with
  | nil =>
    have literals : Text.pieces recognize (first.toList ++ []) = _ := pieces_literals absent nofun
    simp only [weave, List.map_nil, String.join_nil, String.append_empty]
    rw [← List.append_nil first.toList, literals, joinPieces_literals]
    rfl
  | cons part parts ih =>
    obtain ⟨token, literal⟩ := part
    obtain ⟨-, others⟩ := List.forall_mem_cons.mp plain
    rw [List.map_cons] at others
    have rest := ih others (others literal List.mem_cons_self)
    have seam :
      Text.Seam '<' (source token.payload ++ (weave FieldToken.text literal parts).toList) := .cons
    rw [weave_cons, weave_cons, String.toList_append, String.toList_append, FieldToken.text,
      String.toList_ofList, pieces_literals absent seam, joinPieces_literals,
      Text.pieces_token recognize_shortens (recognize_source token.payload_closes _), joinPieces,
      token.replacement_payload, rest]
    simp [bind, Except.bind, pure, Except.pure, Functor.map, Except.map]

/-- Inline tokens are replaced one for one, by what a binding to the same field shows: the literals
    around them stay, and the values are put in as they are, whatever tags or tokens they have in
    them. -/
theorem tokens_show_bound_fields (values : Values) (first : String)
    (parts : List (FieldToken × String))
    (plain : ∀ literal ∈ first :: parts.map (·.2), ¬ openTag <:+: literal.toList) :
    ∃ shown : FieldToken → String,
      resolve (some values) (weave FieldToken.text first parts) = .ok (weave shown first parts) ∧
      ∀ token fieldType format, fieldType.any FieldType.isAsset = false →
        (SlotValue.field (token.binding fieldType format)).inject values =
          .ok (.static (shown token)) := by
  refine ⟨FieldToken.shown values, ?_, fun token fieldType format shows =>
    token.inject_binding values shows format⟩
  rw [resolve, joinPieces_weave values plain]
  exact congrArg Except.ok (String.ofList_toList)

def authorName : FieldToken where
  fieldId := "author"
  followed := ["name"]
  json := .object [("type", .text "field"),
    ("data",
      .object [("field_id", .text "author"), ("relationships", .array [.text "name"]),
        ("format", .null)])]
  before := ['\n', ' ']
  after := [' ']
  describes := ⟨rfl, ⟨_, rfl, rfl, .inl rfl⟩, by decide⟩
  legible :=
    have data :
      Json.Legible 989
        (.object [("field_id", .text "author"), ("relationships", .array [.text "name"]),
          ("format", .null)]) :=
      .object (by decide) (by simpa using ⟨.text "author", .texts ["name"], .null⟩)
    .object (by decide) (by simpa using ⟨.text "field", data⟩)
  blank := List.all_eq_true.mp (by decide)
  closes := by decide +kernel

theorem author_name_is_shown :
    (∀ literal ∈ ["By <ycode-inline-", "variable>."], ¬ openTag <:+: literal.toList) ∧
      resolve (some [("author.name", .ofList (source ['?']))])
        ("By <ycode-inline-" ++ (authorName.text ++ "variable>.")) =
        .ok ("By <ycode-inline-" ++ (.ofList (source ['?']) ++ "variable>.")) := by
  have plain : ∀ literal ∈ ["By <ycode-inline-", "variable>."], ¬ openTag <:+: literal.toList := by
    decide +kernel
  obtain ⟨shown, resolved, bound⟩ :=
    tokens_show_bound_fields [("author.name", .ofList (source ['?']))] "By <ycode-inline-"
      [(authorName, "variable>.")] plain
  have injected := bound authorName none none rfl
  have value :
    (SlotValue.field (authorName.binding none none)).inject
      [("author.name", .ofList (source ['?']))] =
    .ok (.static (.ofList (source ['?']))) := by decide +kernel
  rw [value, Except.ok.injEq, SlotValue.static.injEq] at injected
  simp only [weave, List.map_cons, List.map_nil, String.join_cons, String.join_nil,
    String.append_empty, ← injected] at resolved
  exact ⟨plain, resolved⟩

end PageLayers.Token
