import PageLayers.Pagination.Document
import PageLayers.Pagination.Query
import PageLayers.Proofs.DocumentFields
import PageLayers.Proofs.Entries
import PageLayers.Proofs.IntegerText
import PageLayers.Resolution.Binding

/-!
The pages that query parameters ask for. A parameter counts if its value stands for a whole number
above zero. The page of a layer is the one that its own parameter asks for, or else the one that
`page` asks for, or else the first. Line breaks are the exception: a layer whose id has one is asked
for by `page` only, and one at the end of a parameter's name is not counted.
-/

namespace PageLayers.Pagination

def AsksFor (value : Json) (n : Nat) : Prop := 1 ≤ n ∧
    (value = .int n ∨ ∃ s, value = .text s ∧ Number.Spells s n)

def Asks (params : List (String × Json)) (name : String) (n : Nat) : Prop :=
  ∃ value, (name, value) ∈ params ∧ AsksFor value n

/-- The page is the one that the parameter asks for. If it asks for none, it is the one that `page`
    asks for, and if there is no such parameter either, the first. -/
structure Follows (params : List (String × Json)) (name : String) (page : Nat) : Prop where
  own : ∀ n, Asks params name n → page = n
  shared : (∀ n, ¬ Asks params name n) → ∀ n, Asks params "page" n → page = n
  first : (∀ n, ¬ Asks params name n) → (∀ n, ¬ Asks params "page" n) → page = 1

def parameterNames (layerId : String) : List String :=
  if layerId = "" ∨
    '\n' ∈ layerId.toList then [] else ["page_" ++ layerId, "page_" ++ layerId ++ "\n"]

def askedPage? (names : List String) (params : List (String × Json)) : Option Nat :=
  params.reverse.findSome? fun (name, value) => if name ∈ names then pageNumber? value else none

section values
variable {value : Json} {n : Nat}

theorem pageNumber?_iff : pageNumber? value = some n ↔ AsksFor value n := by
  have bounded : ∀ k : Int, (if 1 ≤ k then some k.toNat else none) = some n ↔ 1 ≤ n ∧ k = n := by
    intro k
    split
    · rw [Option.some.injEq]
      omega
    · simp only [reduceCtorEq, false_iff, not_and]
      omega
  unfold pageNumber? AsksFor
  cases value with
  | int k => simpa using bounded k
  | text s =>
    simp only [reduceCtorEq, false_or, Json.text.injEq, exists_eq_left', ← Number.readInteger?_iff]
    cases Number.readInteger? s with
    | none => simp
    | some k => simpa using bounded k
  | _ => simp

end values

/-- Without a line break at its end, a row of characters is a row without line breaks, or was this
    row before the break was cut off. -/
theorem cutBreak_eq_iff {rest layer : List Char} (plain : '\n' ∉ layer) :
    (if rest.getLast? = some '\n' then rest.dropLast else rest) = layer ↔ rest = layer ∨
    rest = layer ++ ['\n'] := by
  split
  · rename_i last
    obtain ⟨front, rfl⟩ := List.getLast?_eq_some_iff.mp last
    have other : front ++ ['\n'] ≠ layer := by
      rintro rfl
      simp at plain
    simp [other]
  · rename_i last
    have other : rest ≠ layer ++ ['\n'] := by
      rintro rfl
      simp at last
    simp [other]

theorem layerKey?_iff {name layer : List Char} : layerKey? name = some layer ↔
    layer ≠ [] ∧ '\n' ∉ layer ∧
    (name = "page_".toList ++ layer ∨ name = "page_".toList ++ layer ++ ['\n']) := by
  unfold layerKey?
  dsimp only
  generalize "page_".toList = start
  by_cases fits : start <+: name
  · obtain ⟨rest, rfl⟩ := fits
    rw [if_pos (List.isPrefixOf_iff_prefix.mpr (List.prefix_append _ _)), List.drop_left]
    rw [List.append_assoc, List.append_cancel_left_eq, List.append_cancel_left_eq]
    have cut : '\n' ∉ layer → (_ ↔ rest = layer ∨ rest = layer ++ ['\n']) := cutBreak_eq_iff
    generalize (if rest.getLast? = some '\n' then rest.dropLast else rest) = core at cut ⊢
    constructor
    · intro found
      split at found
      · cases found
      · rename_i accepted
        obtain rfl := Option.some.inj found
        simp only [Bool.or_eq_true, List.isEmpty_iff, List.contains_iff_mem, not_or] at accepted
        exact ⟨accepted.1, accepted.2, (cut accepted.2).mp rfl⟩
    · rintro ⟨some, plain, same⟩
      rw [(cut plain).mpr same, if_neg (by simpa using ⟨some, plain⟩)]
  · rw [if_neg (by rwa [List.isPrefixOf_iff_prefix])]
    simp only [reduceCtorEq, false_iff, not_and, not_or]
    exact fun _ _ =>
      ⟨fun same => fits ⟨_, same.symm⟩, fun same =>
        fits ⟨_, (same.trans (List.append_assoc ..)).symm⟩⟩

theorem layerKey?_eq_iff {name layerId : String} :
    layerKey? name.toList = some layerId.toList ↔ name ∈ parameterNames layerId := by
  rw [layerKey?_iff]
  unfold parameterNames
  split
  · rename_i refused
    simp only [List.not_mem_nil, iff_false]
    rintro ⟨some, plain, -⟩
    rcases refused with rfl | broken
    · exact some rfl
    · exact plain broken
  · rename_i accepted
    rw [not_or] at accepted
    have own : name = "page_" ++ layerId ↔ name.toList = "page_".toList ++ layerId.toList := by
      rw [← String.toList_inj, String.toList_append]
    have broken : name = "page_" ++ layerId ++ "\n" ↔
        name.toList = "page_".toList ++ layerId.toList ++ ['\n'] := by
      rw [← String.toList_inj, String.toList_append, String.toList_append]
      rfl
    rw [List.mem_pair, own, broken]
    simp [accepted]

theorem page_not_mem_parameterNames (layerId : String) : "page" ∉ parameterNames layerId := by
  rw [← layerKey?_eq_iff]
  have none : layerKey? "page".toList = none := by decide
  rw [none]
  nofun

section requests
variable {params : List (String × Json)} {name layerId : String} {value : Json} {r : Request}

theorem lookup_withParameter (r : Request) (name : String) (value : Json) (layerId : String) :
    (r.withParameter name value).pageNumbers.lookup layerId =
      (if name ∈ parameterNames layerId then pageNumber? value else none).or
        (r.pageNumbers.lookup layerId) := by
  unfold Request.withParameter
  cases pageNumber? value with
  | none => simp
  | some page =>
    dsimp only
    split_ifs with shared own own
    · exact absurd own (shared ▸ page_not_mem_parameterNames layerId)
    · rfl
    · rw [layerKey?_eq_iff.mpr own]
      dsimp only
      rw [Entries.lookup_put, if_pos String.ofList_toList.symm]
      rfl
    · rw [← layerKey?_eq_iff] at own
      cases found : layerKey? name.toList with
      | none => rfl
      | some layer =>
        have apart : layerId ≠ String.ofList layer := by
          rintro rfl
          exact own (by rw [found, String.toList_ofList])
        dsimp only
        rw [Entries.lookup_put, if_neg apart]
        rfl

theorem defaultPage_withParameter (r : Request) (name : String) (value : Json) :
    (r.withParameter name value).defaultPage =
      (if name ∈ ["page"] then pageNumber? value else none).or r.defaultPage := by
  unfold Request.withParameter
  simp only [List.mem_singleton]
  cases pageNumber? value with
  | none => simp
  | some page =>
    dsimp only
    split_ifs
    · rfl
    · cases layerKey? name.toList <;> rfl

theorem ofQuery_concat (params : List (String × Json)) (name : String) (value : Json) :
    Request.ofQuery (params ++ [(name, value)]) = (Request.ofQuery params).withParameter name
      value := by
  simp [Request.ofQuery]

theorem askedPage?_concat (names : List String) (params : List (String × Json)) (name : String)
    (value : Json) :
    askedPage? names (params ++ [(name, value)]) =
      (if name ∈ names then pageNumber? value else none).or (askedPage? names params) := by
  unfold askedPage?
  rw [List.reverse_append, List.reverse_singleton, List.singleton_append, List.findSome?_cons]
  dsimp only
  cases (if name ∈ names then pageNumber? value else none) <;> rfl

theorem ofQuery_pages (params : List (String × Json)) :
    (∀ layerId, (Request.ofQuery params).pageNumbers.lookup layerId =
      askedPage? (parameterNames layerId) params) ∧
      (Request.ofQuery params).defaultPage = askedPage? ["page"] params := by
  induction params using List.reverseRecOn with
  | nil => exact ⟨fun _ => rfl, rfl⟩
  | append_singleton params last ih =>
    obtain ⟨name, value⟩ := last
    refine ⟨fun layerId => ?_, ?_⟩
    · rw [ofQuery_concat, lookup_withParameter, ih.1, askedPage?_concat]
    · rw [ofQuery_concat, defaultPage_withParameter, ih.2, askedPage?_concat]

theorem pageFor_ofQuery (params : List (String × Json)) (layerId : String) :
    (Request.ofQuery params).pageFor layerId =
      (askedPage? (parameterNames layerId) params).getD ((askedPage? ["page"] params).getD 1) := by
  rw [Request.pageFor, (ofQuery_pages params).1, (ofQuery_pages params).2]

/-! ### What is asked for -/

variable {names : List String} {n : Nat}

theorem asks_of_askedPage? (asked : askedPage? names params = some n) : ∃ name ∈ names,
    Asks params name n := by
  obtain ⟨⟨name, value⟩, member, found⟩ := List.exists_of_findSome?_eq_some asked
  dsimp only at found
  split at found
  · exact ⟨name, ‹_›, value, List.mem_reverse.mp member, pageNumber?_iff.mp found⟩
  · cases found

theorem askedPage?_eq_none (silent : ∀ name ∈ names, ∀ n, ¬ Asks params name n) :
    askedPage? names params = none := by
  cases asked : askedPage? names params with
  | none => rfl
  | some n =>
    obtain ⟨name, member, asks⟩ := asks_of_askedPage? asked
    exact absurd asks (silent name member n)

theorem askedPage?_of_last {before after : List (String × Json)} (member : name ∈ names)
    (asks : AsksFor value n) (last : ∀ other ∈ names, ∀ m, ¬ Asks after other m) :
    askedPage? names (before ++ (name, value) :: after) = some n := by
  have later : askedPage? names after = none := askedPage?_eq_none last
  unfold askedPage? at later ⊢
  rw [List.reverse_append, List.reverse_cons, List.append_assoc, List.findSome?_append, later,
    Option.none_or, List.singleton_append, List.findSome?_cons]
  dsimp only
  rw [if_pos member, pageNumber?_iff.mpr asks]

theorem one_le_pageFor (params : List (String × Json)) (layerId : String) :
    1 ≤ (Request.ofQuery params).pageFor layerId := by
  have positive : ∀ names n, askedPage? names params = some n → 1 ≤ n := fun names n asked => by
    obtain ⟨_, -, _, -, bound, -⟩ := asks_of_askedPage? asked
    exact bound
  rw [pageFor_ofQuery]
  cases own : askedPage? (parameterNames layerId) params with
  | some n => exact positive _ n own
  | none =>
    cases shared : askedPage? ["page"] params with
    | some n => exact positive _ n shared
    | none => exact Nat.le_refl 1

theorem askedPage?_of_asks (distinct : (params.map (·.1)).Nodup) (member : name ∈ names)
    (asks : Asks params name n)
    (silent : ∀ other ∈ names, other ≠ name → ∀ m, ¬ Asks params other m) :
    askedPage? names params = some n := by
  obtain ⟨value, parameter, number⟩ := asks
  obtain ⟨before, after, rfl⟩ := List.append_of_mem parameter
  rw [List.map_append, List.map_cons, List.nodup_append, List.nodup_cons] at distinct
  have fresh : name ∉ after.map (·.1) := distinct.2.1.1
  refine askedPage?_of_last member number ?_
  rintro other listed m ⟨value', later, number'⟩
  by_cases same : other = name
  · exact fresh (same ▸ List.mem_map_of_mem later)
  · exact silent other listed same m
      ⟨value', List.mem_append_right _ (List.mem_cons_of_mem _ later), number'⟩

theorem follows_of_silent (distinct : (params.map (·.1)).Nodup) (member : name ∈ names)
    (silent : ∀ other ∈ names, other ≠ name → ∀ m, ¬ Asks params other m) :
    Follows params name ((askedPage? names params).getD ((askedPage? ["page"] params).getD 1)) := by
  have none : (∀ n, ¬ Asks params name n) → askedPage? names params = none := fun own =>
    askedPage?_eq_none fun other listed => by
      by_cases same : other = name
      · exact same ▸ own
      · exact silent other listed same
  refine ⟨fun n asks => ?_, fun own n asks => ?_, fun own others => ?_⟩
  · rw [askedPage?_of_asks distinct member asks silent]
    rfl
  · have shared : askedPage? ["page"] params = some n :=
      askedPage?_of_asks distinct (List.mem_singleton.mpr rfl) asks
        fun other listed apart => absurd (List.mem_singleton.mp listed) apart
    rw [none own, shared]
    rfl
  · have absent : askedPage? ["page"] params = .none :=
      askedPage?_eq_none fun other listed => List.mem_singleton.mp listed ▸ others
    rw [none own, absent]
    rfl

end requests

/-! ### Requests as documents -/

def Request.Sound (r : Request) : Prop := (∀ e ∈ r.pageNumbers, 1 ≤ e.2) ∧
    ∀ n ∈ r.defaultPage, 1 ≤ n

theorem Request.back {r : Request} (sound : r.Sound) : Request.check r.toJson = .ok r := by
  have number : ∀ n, 1 ≤ n → Document.ReadsBack Document.positive Document.ofNat n := fun n bound =>
    ⟨by
      simp [Document.positive, Document.ofNat, Document.whole, Document.Checked.andThen]
      omega, nofun⟩
  have pages : Document.mapOf Document.positive (Document.ofEntries Document.ofNat r.pageNumbers) =
    .ok r.pageNumbers :=
    Document.mapOf_ofEntries fun e member => (number e.2 (sound.1 e member)).back
  have shared : Document.nullable Document.positive (Document.orNull Document.ofNat r.defaultPage) =
    .ok r.defaultPage :=
    Document.nullable_orNull fun n held => number n (sound.2 n held)
  simp [Request.check, Request.toJson, Document.optional, Document.perhaps, List.lookup_cons, pages,
    shared]

theorem Request.Sound.withParameter {r : Request} (sound : r.Sound) (name : String) (value : Json) :
    (r.withParameter name value).Sound := by
  unfold Request.withParameter
  cases asked : pageNumber? value with
  | none => exact sound
  | some page =>
    have positive : 1 ≤ page := (pageNumber?_iff.mp asked).1
    dsimp only
    split
    · refine ⟨sound.1, ?_⟩
      rintro n ⟨⟩
      exact positive
    · split
      · refine ⟨fun e member => ?_, sound.2⟩
        rcases Entries.mem_put member with rfl | earlier
        · exact positive
        · exact sound.1 e earlier
      · exact sound

theorem Request.sound_ofQuery (params : List (String × Json)) : (Request.ofQuery params).Sound := by
  induction params using List.reverseRecOn with
  | nil => exact ⟨nofun, nofun⟩
  | append_singleton params last ih =>
    rw [ofQuery_concat]
    exact ih.withParameter _ _

/-- The request that parameters make is a valid one, and every window starts at a natural number.
    The page of a layer follows the rule about its own parameter, `page` and the first page, if its
    id has no line break and no parameter is told from its own by a line break alone. Of two such
    parameters the later one counts, and where an id has a line break, `page` does. -/
theorem pages_follow_parameters_without_line_breaks {params : List (String × Json)}
    (distinct : (params.map (·.1)).Nodup) {layerId : String} (named : layerId ≠ "") :
    Request.check (Request.ofQuery params).toJson = .ok (Request.ofQuery params) ∧
    1 ≤ (Request.ofQuery params).pageFor layerId ∧
    (∀ (settings : Settings) (s : CollectionSource) (size : Nat),
      (s.fetchWindow settings (Request.ofQuery params) layerId).itemsPerPage = some size →
      ∃ offset : Nat, (s.fetchWindow settings (Request.ofQuery params) layerId).offset =
        some offset ∧
        (offset : Int) = (((Request.ofQuery params).pageFor layerId : Int) - 1) * size) ∧
    ('\n' ∈ layerId.toList → Follows params "page" ((Request.ofQuery params).pageFor layerId)) ∧
    ('\n' ∉ layerId.toList →
      ((∀ n, ¬ Asks params ("page_" ++ layerId ++ "\n") n) →
        Follows params ("page_" ++ layerId) ((Request.ofQuery params).pageFor layerId)) ∧
      ((∀ n, ¬ Asks params ("page_" ++ layerId) n) →
        Follows params ("page_" ++ layerId ++ "\n") ((Request.ofQuery params).pageFor layerId)) ∧
      (∀ before name value after n, params = before ++ (name, value) :: after →
        name ∈ ["page_" ++ layerId, "page_" ++ layerId ++ "\n"] → AsksFor value n →
        (∀ other ∈ ["page_" ++ layerId, "page_" ++ layerId ++ "\n"], ∀ m, ¬ Asks after other m) →
        (Request.ofQuery params).pageFor layerId = n)) := by
  have first := one_le_pageFor params layerId
  refine ⟨Request.back (Request.sound_ofQuery params), first, ?_, fun broken => ?_, fun plain => ?_⟩
  · intro settings s size paged
    unfold CollectionSource.fetchWindow at paged ⊢
    cases config : s.paging? with
    | none => simp [config] at paged
    | some config =>
      simp only [config, Option.some.injEq] at paged ⊢
      refine ⟨_, rfl, ?_⟩
      rw [paged, Int.natCast_mul, Int.natCast_sub first]
      rfl
  · have names : parameterNames layerId = [] := if_pos (.inr broken)
    have follows := follows_of_silent distinct (List.mem_singleton.mpr rfl)
      fun other listed (apart : other ≠ "page") => absurd (List.mem_singleton.mp listed) apart
    rw [pageFor_ofQuery, names, (askedPage?_eq_none nofun : askedPage? [] params = none)]
    cases shared : askedPage? ["page"] params <;> rw [shared] at follows <;> exact follows
  · have names : parameterNames layerId = ["page_" ++ layerId, "page_" ++ layerId ++ "\n"] :=
      if_neg (not_or.mpr ⟨named, plain⟩)
    rw [pageFor_ofQuery, names]
    refine ⟨fun silent => ?_, fun silent => ?_, ?_⟩
    · refine follows_of_silent distinct (List.mem_cons_self ..) fun other listed apart => ?_
      rcases List.mem_pair.mp listed with rfl | rfl
      · exact absurd rfl apart
      · exact silent
    · refine follows_of_silent distinct (List.mem_cons_of_mem _ (List.mem_cons_self ..))
        fun other listed apart => ?_
      rcases List.mem_pair.mp listed with rfl | rfl
      · exact silent
      · exact absurd rfl apart
    · rintro before name value after n rfl listed asks last
      rw [askedPage?_of_last listed asks last]
      rfl

theorem songs_page_follows_its_parameter :
    (Request.ofQuery [("page_songs", .text " +3 "), ("page", .text "2")]).pageFor "songs" = 3 ∧
      (Request.ofQuery [("page_songs", .text " +3 "), ("page", .text "2")]).pageFor "songs\n" =
        2 := by
  have distinct :
    (([("page_songs", .text " +3 "), ("page", .text "2")] : List (String × Json)).map
      (·.1)).Nodup := by decide
  have own : AsksFor (.text " +3 ") 3 := pageNumber?_iff.mp (by decide +kernel)
  have shared : AsksFor (.text "2") 2 := pageNumber?_iff.mp (by decide +kernel)
  obtain ⟨-, -, -, -, plain⟩ := pages_follow_parameters_without_line_breaks distinct
    (show "songs" ≠ "" by decide)
  obtain ⟨-, -, -, broken, -⟩ := pages_follow_parameters_without_line_breaks distinct
    (show "songs\n" ≠ "" by decide)
  constructor
  · refine ((plain (by decide)).1 ?_).own 3 ⟨_, List.mem_cons_self .., own⟩
    rintro n ⟨value, member, -⟩
    revert member
    simp
  · exact (broken (by decide)).own 2 ⟨_, by simp, shared⟩

theorem line_breaks_move_pages :
    ¬ Follows [("page_songs", .text "2"), ("page_songs\n", .text "3")] "page_songs"
        ((Request.ofQuery [("page_songs", .text "2"), ("page_songs\n", .text "3")]).pageFor
          "songs") ∧
      ¬ Follows [("page_a\nb", .text "2")] "page_a\nb"
        ((Request.ofQuery [("page_a\nb", .text "2")]).pageFor "a\nb") := by
  have two : AsksFor (.text "2") 2 := pageNumber?_iff.mp (by decide +kernel)
  constructor
  · intro follows
    have page := follows.own 2 ⟨_, List.mem_cons_self .., two⟩
    exact absurd page (by decide +kernel)
  · intro follows
    have page := follows.own 2 ⟨_, List.mem_cons_self .., two⟩
    exact absurd page (by decide +kernel)

end PageLayers.Pagination
