import PageLayers.Proofs.InlineTokens

/-!
Texts whose inline tokens are taken out. All tokens go that are found in one pass over the text, and
what stood around them stands side by side. Parts of an opening tag that tokens kept apart become a
tag then, so that a token may come into being that was not there. This is the only way in which one
is left, and the only one in which taking out tokens again makes a difference.
-/

namespace PageLayers.Token

def HasToken (cs : List Char) : Prop := ∃ before payload after,
    cs = before ++ source payload ++ after

/-- The text of a first literal and of tokens each followed by a literal is told apart as it is
    written: no tag opens in a literal with a token after it, each token ends with the first tag
    that closes it, and the last literal has none in it. -/
inductive Reads : List Char → List (List Char × List Char) → Prop
  | last {literal : List Char} (free : ¬ HasToken literal) : Reads literal []
  | next {literal payload later : List Char} {parts : List (List Char × List Char)}
      (plain : ¬ openTag <:+: literal)
      (closes : ¬ closeTag <:+: payload) (rest : Reads later parts) :
        Reads literal ((payload, later) :: parts)

def remains (first : List Char) (parts : List (List Char × List Char)) : List Char :=
  Text.weave (fun _ => []) first parts

/-- An opening tag stands in two parts before and after a token, where the other tokens do not
    count, and a closing tag comes later. -/
def Straddles (first : List Char) (parts : List (List Char × List Char)) : Prop :=
  ∃ before payload literal after front head tail back, parts = before ++ (payload, literal) ::
    after ∧
    remains first before = front ++ head ∧ remains literal after = tail ++ back ∧
    head ≠ [] ∧ tail ≠ [] ∧ head ++ tail = openTag ∧ closeTag <:+: back

variable {cs first : List Char} {parts : List (List Char × List Char)}

theorem openTag_ne_nil : openTag ≠ [] := by decide

theorem closeTag_ne_nil : closeTag ≠ [] := by decide

theorem HasToken.of_suffix {ds : List Char} (inside : HasToken ds) (within : ds <:+ cs) :
    HasToken cs := by
  obtain ⟨before, payload, after, rfl⟩ := inside
  obtain ⟨more, rfl⟩ := within
  exact ⟨more ++ before, payload, after, by simp⟩

theorem recognize_some {payload rest : List Char} (found : recognize cs = some (payload, rest)) :
    cs = source payload ++ rest ∧ ¬ closeTag <:+: payload := by
  unfold recognize at found
  split_ifs at found with opens
  obtain ⟨behind, rfl⟩ := List.isPrefixOf_iff_prefix.mp opens
  rw [List.drop_left] at found
  exact ⟨by
    simp [Text.eq_of_splitAtWord? found, source],
      Text.not_infix_of_splitAtWord? closeTag_ne_nil found⟩

theorem recognize_none {rest : List Char} (none : recognize (openTag ++ rest) = none) :
    ¬ closeTag <:+: rest := by
  rw [recognize, if_pos (by simp), List.drop_left] at none
  exact (Text.splitAtWord?_eq_none_iff closeTag_ne_nil).mp none

theorem recognize_free (free : ¬ HasToken cs) : recognize cs = none := by
  cases found : recognize cs with
  | none => rfl
  | some token =>
    obtain ⟨payload, rest⟩ := token
    exact absurd ⟨[], payload, rest, (recognize_some found).1⟩ free

theorem Reads.cons {c : Char} (reads : Reads first parts)
    (none : recognize (c :: Text.weave source first parts) = none) : Reads (c :: first) parts := by
  cases reads with
  | last free =>
    refine .last ?_
    rintro ⟨before, payload, after, whole⟩
    cases before with
    | nil =>
      have opens : c :: first = openTag ++ (payload ++ (closeTag ++ after)) := by
        simpa [source] using whole
      rw [Text.weave_nil, opens] at none
      exact recognize_none none ⟨payload, after, by simp⟩
    | cons d before =>
      simp only [List.cons_append, List.cons.injEq] at whole
      exact free ⟨before, payload, after, whole.2⟩
  | @next _ payload later parts plain closes rest =>
    refine .next ?_ closes rest
    rw [List.infix_cons_iff]
    rintro (⟨front, opens⟩ | inside)
    · -- The tag would be closed by the token after the literal at the latest.
      rw [Text.weave_cons, ← List.cons_append, ← opens, List.append_assoc] at none
      exact recognize_none none ⟨front ++ (openTag ++ payload), Text.weave source later parts, by
        simp [source]⟩
    · exact plain inside

theorem exists_reads (cs : List Char) : ∃ first parts, Reads first parts ∧
    cs = Text.weave source first parts := by
  induction size : cs.length using Nat.strong_induction_on generalizing cs with
  | _ n ih =>
    cases cs with
    | nil => exact ⟨[], [], .last (by simp [HasToken, source, openTag_ne_nil]), by simp⟩
    | cons c cs =>
      cases found : recognize (c :: cs) with
      | some token =>
        obtain ⟨payload, rest⟩ := token
        obtain ⟨whole, closes⟩ := recognize_some found
        obtain ⟨first, parts, reads, same⟩ := ih _ (size ▸ recognize_shortens _ _ _ found) rest rfl
        refine ⟨[], (payload, first) :: parts, .next (by simpa using openTag_ne_nil) closes reads,
          ?_⟩
        rw [Text.weave_cons, List.nil_append, ← same, whole]
      | none =>
        obtain ⟨first, parts, reads, rfl⟩ := ih cs.length (by simp [← size]) cs rfl
        exact ⟨c :: first, parts, reads.cons found, rfl⟩

theorem literals_map (cs : List Char) (ps : List (Text.Piece (List Char))) :
    literals (cs.map .literal ++ ps) = cs ++ literals ps := by
  induction cs with
  | nil => rfl
  | cons c cs ih => exact congrArg (c :: ·) ih

theorem literals_pieces (reads : Reads first parts) :
    literals (Text.pieces recognize (Text.weave source first parts)) = remains first parts := by
  induction reads with
  | @last literal free =>
    have plain : Text.pieces recognize (literal ++ []) = literal.map .literal ++
      Text.pieces recognize [] :=
      Text.pieces_literals fun ds _ within => by
        rw [List.append_nil]
        exact recognize_free fun inside => free (inside.of_suffix within)
    rw [List.append_nil] at plain
    rw [Text.weave_nil, plain, literals_map, remains, Text.weave_nil]
    exact List.append_nil literal
  | @next literal payload later parts plain closes _ ih =>
    have seam : Text.Seam '<' (source payload ++ Text.weave source later parts) := .cons
    rw [Text.weave_cons, pieces_literals plain seam, literals_map,
      Text.pieces_token recognize_shortens (recognize_source closes _), remains, Text.weave_cons,
      List.nil_append]
    exact congrArg (literal ++ ·) ih

theorem strip_eq_remains {text : String} (reads : Reads first parts)
    (written : text.toList = Text.weave source first parts) :
    (strip text).toList = remains first parts := by
  rw [strip, String.toList_ofList, written, literals_pieces reads]

/-- Whatever token is left has an opening tag that tokens kept apart, since no literal has both tags
    in it. -/
theorem hasToken_remains_iff (reads : Reads first parts) : HasToken (remains first parts) ↔
    Straddles first parts := by
  constructor
  · rintro ⟨before, payload, after, whole⟩
    have split : remains first parts = before ++ (openTag ++ (payload ++ (closeTag ++ after))) := by
      simpa [source] using whole
    clear whole
    induction reads generalizing before with
    | @last literal free =>
      rw [remains, Text.weave_nil] at split
      exact absurd ⟨before, payload, after, by simpa [source] using split⟩ free
    | @next literal token later parts plain closes rest ih =>
      -- A tag that opens in what comes later straddles there.
      have lift : ∀ ahead, remains later parts =
        ahead ++ (openTag ++ (payload ++ (closeTag ++ after))) →
          Straddles literal ((token, later) :: parts) := by
        intro ahead inside
        obtain ⟨ps, p, l, qs, front, head, tail, back, rfl, left, right, rest⟩ := ih ahead inside
        refine ⟨(token, later) :: ps, p, l, qs, literal ++ front, head, tail, back, rfl, ?_,
          right, rest⟩
        rw [remains, Text.weave_cons, List.nil_append, List.append_assoc, ← left]
        rfl
      rw [remains, Text.weave_cons, List.nil_append] at split
      rcases List.append_eq_append_iff.mp split with ⟨ahead, _, inside⟩ | ⟨head, here, across⟩
      · exact lift ahead inside
      · rcases List.append_eq_append_iff.mp across with ⟨more, within, _⟩ | ⟨tail, opens, right⟩
        · exact absurd ⟨before, more, by simp [here, within]⟩ plain
        · by_cases noHead : head = []
          · exact lift [] (by simpa [noHead, remains, opens] using right)
          by_cases noTail : tail = []
          · exact absurd ⟨before, [], by simp [here, opens, noTail]⟩ plain
          exact ⟨[], token, later, parts, before, head, tail, _, rfl, by
            simpa [remains] using here, right, noHead, noTail,
            opens.symm, payload, after, by simp⟩
  · rintro ⟨before, payload, literal, after, front, head, tail, back, rfl, left, right, _, _, opens,
      x, y, closed⟩
    refine ⟨front, x, y, ?_⟩
    rw [remains, Text.weave_append, List.nil_append, ← remains, ← remains, left, right, ← closed,
      source, ← opens]
    simp

theorem strip_eq_self_iff (text : String) : strip text = text ↔ ¬ HasToken text.toList := by
  obtain ⟨first, parts, reads, written⟩ := exists_reads text.toList
  rw [← String.toList_inj, strip_eq_remains reads written, written]
  cases reads with
  | last free => simpa [remains] using free
  | @next _ payload later parts plain closes rest =>
    have some : 0 < (source payload).length :=
      List.length_pos_iff.mpr (by simp [source, openTag_ne_nil])
    have shorter :
      (remains first ((payload, later) :: parts)).length <
        (Text.weave source first ((payload, later) :: parts)).length :=
      Text.length_weave_lt (fun _ => Nat.zero_le _) List.mem_cons_self some
    have token : HasToken (Text.weave source first ((payload, later) :: parts)) :=
      ⟨first, payload, Text.weave source later parts, by simp [Text.weave_cons]⟩
    simp only [token, not_true_eq_false, iff_false]
    exact fun same => Nat.ne_of_lt shorter (congrArg List.length same)

/-- All tokens that are found in one pass are taken out of a text and nothing else is. A token is
    left, and taking out tokens again makes a difference, exactly if tokens kept the parts of an
    opening tag apart that is closed later. -/
theorem removal_is_final_unless_tag_straddles (text : String) :
    ∃ first parts, Reads first parts ∧ text.toList = Text.weave source first parts ∧
      (strip text).toList = remains first parts ∧
      (HasToken (strip text).toList ↔ Straddles first parts) ∧
      (strip (strip text) = strip text ↔ ¬ Straddles first parts) := by
  obtain ⟨first, parts, reads, written⟩ := exists_reads text.toList
  have left := strip_eq_remains reads written
  have token := hasToken_remains_iff reads
  refine ⟨first, parts, reads, written, left, ?_, ?_⟩
  · rw [left, token]
  · rw [strip_eq_self_iff, left, token]

def dividedTag :
    String :=
      "<ycode-inline-<ycode-inline-variable></ycode-inline-variable>variable>name</ycode-inline-variable>"

theorem divided_tag_makes_token :
    strip dividedTag = "<ycode-inline-variable>name</ycode-inline-variable>" ∧
    HasToken (strip dividedTag).toList ∧
      strip (strip dividedTag) = "" := by
  have once : strip dividedTag = "<ycode-inline-variable>name</ycode-inline-variable>" := by
    decide +kernel
  rw [once]
  exact ⟨rfl, ⟨[], "name".toList, [], by decide⟩, by decide +kernel⟩

end PageLayers.Token
