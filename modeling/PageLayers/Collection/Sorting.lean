import PageLayers.Collection.Item

/-!
Stable sorts. A sort puts items in the order of a comparison and keeps those that compare equal in
their order. On items on which the comparison is no preorder there is no such order, and what a sort
makes of them depends on how it goes about it.
-/

namespace PageLayers

/-- Nothing precedes what comes before it, and what compares equal keeps its order. -/
structure StablySorted {α : Type} (cmp : α → α → Ordering) (xs sorted : List α) : Prop where
  perm : sorted.Perm xs
  ordered : sorted.Pairwise fun a b => (cmp a b).isLE = true
  kept : ∀ a ∈ xs, sorted.filter (fun b => cmp a b = .eq) = xs.filter (fun b => cmp a b = .eq)

structure PreorderOn {α : Type} (cmp : α → α → Ordering) (xs : List α) : Prop where
  swap : ∀ a ∈ xs, ∀ b ∈ xs, cmp b a = (cmp a b).swap
  trans : ∀ a ∈ xs, ∀ b ∈ xs, ∀ c ∈ xs,
    (cmp a b).isLE = true → (cmp b c).isLE = true → (cmp a c).isLE = true

namespace PreorderOn
variable {α : Type} {cmp : α → α → Ordering} {xs ys : List α} {a b : α}

theorem subset (order : PreorderOn cmp xs) (within : ys ⊆ xs) : PreorderOn cmp ys where
  swap a first b second := order.swap a (within first) b (within second)
  trans a first b second c third := order.trans a (within first) b (within second) c (within third)

theorem isLE_of_ne_lt (order : PreorderOn cmp xs) (first : a ∈ xs) (second : b ∈ xs)
    (notLess : cmp a b ≠ .lt) : (cmp b a).isLE = true := by
  rw [order.swap a first b second]
  cases placed : cmp a b <;> simp_all

theorem ne_lt_of_isLE (order : PreorderOn cmp xs) (first : a ∈ xs) (second : b ∈ xs)
    (less : (cmp a b).isLE = true) : cmp b a ≠ .lt := by
  rw [order.swap a first b second]
  cases placed : cmp a b <;> simp_all

theorem lt_of_lt_of_isLE {c : α} (order : PreorderOn cmp xs) (first : a ∈ xs) (second : b ∈ xs)
    (third : c ∈ xs) (less : cmp a b = .lt) (next : (cmp b c).isLE = true) : cmp a c = .lt := by
  refine Decidable.byContradiction fun more => ?_
  have back := order.trans b second c third a first next (order.isLE_of_ne_lt first third more)
  exact order.ne_lt_of_isLE second first back less

theorem lt_of_isLE_of_lt {c : α} (order : PreorderOn cmp xs) (first : a ∈ xs) (second : b ∈ xs)
    (third : c ∈ xs) (notMore : (cmp a b).isLE = true) (less : cmp b c = .lt) : cmp a c = .lt := by
  refine Decidable.byContradiction fun more => ?_
  have back := order.trans c third a first b second (order.isLE_of_ne_lt first third more) notMore
  exact order.ne_lt_of_isLE third second back less

theorem congr_left {c : α} (order : PreorderOn cmp xs) (first : a ∈ xs) (second : b ∈ xs)
    (third : c ∈ xs) (tie : cmp a b = .eq) : cmp a c = cmp b c := by
  have back : cmp b a = .eq := by rw [order.swap a first b second, tie]; rfl
  have up : (cmp a c).isLE = true ↔ (cmp b c).isLE = true :=
    ⟨order.trans b second a first c third (by simp [back]),
      order.trans a first b second c third (by simp [tie])⟩
  have down : (cmp a c).swap.isLE = true ↔ (cmp b c).swap.isLE = true := by
    rw [← order.swap a first c third, ← order.swap b second c third]
    exact ⟨fun less => order.trans c third a first b second less (by simp [tie]),
      fun less => order.trans c third b second a first less (by simp [back])⟩
  cases one : cmp a c <;> cases other : cmp b c <;> simp_all

end PreorderOn

/-- A way to sort items. Without a preorder it may leave them in any order. -/
structure Sorter where
  sort : (Item → Item → Ordering) → List Item → List Item
  perm : ∀ cmp items, (sort cmp items).Perm items
  stable : ∀ cmp items, PreorderOn cmp items → StablySorted cmp items (sort cmp items)

namespace RunSort
variable {α : Type}

def splitRun (follows : α → α → Bool) (a : α) : List α → List α × List α
  | [] => ([a], [])
  | b :: bs =>
    if follows a b then
      let (run, rest) := splitRun follows b bs
      (a :: run, rest)
    else ([a], b :: bs)

/-- The run at the front, turned if it falls, and what is left. -/
def firstRun (cmp : α → α → Ordering) : List α → List α × List α
  | [] => ([], [])
  | [a] => ([a], [])
  | a :: b :: bs =>
    if cmp b a = .lt then
      let (run, rest) := splitRun (fun x y => cmp y x = .lt) a (b :: bs)
      (run.reverse, rest)
    else splitRun (fun x y => cmp y x ≠ .lt) a (b :: bs)

/-- Finds the place of an element by comparing it with the middle of what is left. -/
def insertWithin (cmp : α → α → Ordering) (x : α) : Nat → List α → List α
  | 0, ys => x :: ys
  | n + 1, ys =>
    match ys.drop (ys.length / 2) with
    | [] => [x]
    | y :: after =>
      let before := ys.take (ys.length / 2)
      if cmp x y = .lt then insertWithin cmp x n before ++ y :: after
      else before ++ y :: insertWithin cmp x n after

def insertSorted (cmp : α → α → Ordering) (ys : List α) (x : α) : List α :=
  insertWithin cmp x ys.length ys

def sort (cmp : α → α → Ordering) (xs : List α) : List α :=
  let (run, rest) := firstRun cmp xs
  rest.foldl (insertSorted cmp) run

theorem splitRun_append (follows : α → α → Bool) (a : α) (xs : List α) :
    (splitRun follows a xs).1 ++ (splitRun follows a xs).2 = a :: xs := by
  induction xs generalizing a with
  | nil => rfl
  | cons b bs ih =>
    unfold splitRun
    split
    · exact congrArg (a :: ·) (ih b)
    · rfl

theorem insertWithin_perm (cmp : α → α → Ordering) (x : α) (n : Nat) (ys : List α) :
    (insertWithin cmp x n ys).Perm (x :: ys) := by
  induction n generalizing ys with
  | zero => exact .refl _
  | succ n ih =>
    have whole := List.take_append_drop (ys.length / 2) ys
    unfold insertWithin
    split
    · rename_i none
      have empty : ys = [] := by
        have short := List.drop_eq_nil_iff.mp none
        exact List.eq_nil_of_length_eq_zero (by omega)
      rw [empty]
    · rename_i y after found
      rw [found] at whole
      conv => rhs; rw [← whole]
      dsimp only
      split
      · exact (ih _).append_right _
      · exact (((ih after).cons y).trans (.swap x y after)).append_left _ |>.trans List.perm_middle

theorem firstRun_perm (cmp : α → α → Ordering) (xs : List α) :
    ((firstRun cmp xs).1 ++ (firstRun cmp xs).2).Perm xs := by
  match xs with
  | [] => exact .refl _
  | [a] => exact .refl _
  | a :: b :: bs =>
    simp only [firstRun]
    split
    · refine ((List.reverse_perm _).append_right _).trans ?_
      rw [splitRun_append]
    · rw [splitRun_append]

theorem foldl_insertSorted_perm (cmp : α → α → Ordering) (rest ys : List α) :
    (rest.foldl (insertSorted cmp) ys).Perm (ys ++ rest) := by
  induction rest generalizing ys with
  | nil => simp
  | cons x rest ih =>
    have first : (insertSorted cmp ys x).Perm (x :: ys) := insertWithin_perm cmp x _ ys
    exact ((ih _).trans (first.append_right rest)).trans List.perm_middle.symm

theorem sort_perm (cmp : α → α → Ordering) (xs : List α) : (sort cmp xs).Perm xs :=
  (foldl_insertSorted_perm cmp _ _).trans (firstRun_perm cmp xs)

variable {cmp : α → α → Ordering} {xs ys : List α} {x : α} {n : Nat}

theorem insertWithin_split (order : PreorderOn cmp (x :: ys))
    (sorted : ys.Pairwise fun a b => (cmp a b).isLE = true) (enough : ys.length ≤ n) :
    ∃ front back, ys = front ++ back ∧ insertWithin cmp x n ys = front ++ x :: back ∧
      (∀ b ∈ front, (cmp b x).isLE = true) ∧ ∀ b ∈ back, cmp x b = .lt := by
  induction n generalizing ys with
  | zero =>
    have empty := List.eq_nil_of_length_eq_zero (Nat.le_zero.mp enough)
    exact ⟨[], [], empty, by rw [empty]; rfl, by simp, by simp⟩
  | succ n ih =>
    have whole := List.take_append_drop (ys.length / 2) ys
    have half : (ys.take (ys.length / 2)).length = ys.length / 2 := by
      rw [List.length_take]
      omega
    unfold insertWithin
    split
    · rename_i none
      have short := List.drop_eq_nil_iff.mp none
      have empty : ys = [] := List.eq_nil_of_length_eq_zero (by omega)
      exact ⟨[], [], empty, rfl, by simp, by simp⟩
    · rename_i y after found
      rw [found] at whole
      dsimp only
      generalize ys.take (ys.length / 2) = before at whole half ⊢
      subst whole
      obtain ⟨sortedBefore, sortedRest, across⟩ := List.pairwise_append.mp sorted
      obtain ⟨above, sortedAfter⟩ := List.pairwise_cons.mp sortedRest
      have memX : x ∈ x :: (before ++ y :: after) := List.mem_cons_self
      have memY : y ∈ x :: (before ++ y :: after) := by simp
      rw [List.length_append, List.length_cons] at enough half
      clear found
      split
      · rename_i less
        obtain ⟨front, back, rfl, made, below, behind⟩ :=
          ih (order.subset (by simp)) sortedBefore (by omega)
        refine ⟨front, back ++ y :: after, by simp, by simp [made], below, fun b member => ?_⟩
        rcases List.mem_append.mp member with inBack | rest
        · exact behind b inBack
        · rcases List.mem_cons.mp rest with rfl | inAfter
          · exact less
          · exact order.lt_of_lt_of_isLE memX memY (by simp [inAfter]) less (above b inAfter)
      · rename_i notLess
        have first := order.isLE_of_ne_lt memX memY notLess
        obtain ⟨front, back, rfl, made, below, behind⟩ :=
          ih (order.subset fun a member => by
            rcases List.mem_cons.mp member with rfl | inAfter
            · exact memX
            · simp [inAfter]) sortedAfter (by omega)
        refine ⟨before ++ y :: front, back, by simp, by simp [made], fun b member => ?_, behind⟩
        rcases List.mem_append.mp member with inBefore | rest
        · exact order.trans b (by simp [inBefore]) y memY x memX
            (across b inBefore y (by simp)) first
        · rcases List.mem_cons.mp rest with rfl | inFront
          · exact first
          · exact below b inFront

theorem kept_of_preorder {sorted : List α} (stable : StablySorted cmp xs sorted)
    (order : PreorderOn cmp (x :: xs)) :
    sorted.filter (fun b => cmp x b = .eq) = xs.filter (fun b => cmp x b = .eq) := by
  by_cases tie : ∃ a ∈ xs, cmp x a = .eq
  · obtain ⟨a, member, same⟩ := tie
    have alike : ∀ b ∈ xs, decide (cmp x b = .eq) = decide (cmp a b = .eq) := by
      intro b inXs
      rw [order.congr_left List.mem_cons_self (List.mem_cons_of_mem x member)
        (List.mem_cons_of_mem x inXs) same]
    have among : ∀ b ∈ sorted, decide (cmp x b = .eq) = decide (cmp a b = .eq) :=
      fun b inSorted => alike b (stable.perm.mem_iff.mp inSorted)
    rw [List.filter_congr among, List.filter_congr alike]
    exact stable.kept a member
  · have none : ∀ b ∈ xs, ¬ decide (cmp x b = .eq) = true := by
      intro b inXs same
      exact tie ⟨b, inXs, of_decide_eq_true same⟩
    rw [List.filter_eq_nil_iff.mpr none, List.filter_eq_nil_iff]
    exact fun b inSorted => none b (stable.perm.mem_iff.mp inSorted)

theorem insertSorted_stable (order : PreorderOn cmp (xs ++ [x])) (stable : StablySorted cmp xs ys) :
    StablySorted cmp (xs ++ [x]) (insertSorted cmp ys x) := by
  have among : x :: ys ⊆ xs ++ [x] := fun a member => by
    rcases List.mem_cons.mp member with rfl | inYs
    · simp
    · simp [stable.perm.mem_iff.mp inYs]
  have onYs := order.subset among
  obtain ⟨front, back, parts, made, below, behind⟩ :=
    insertWithin_split onYs stable.ordered (Nat.le_refl _)
  have ordered := stable.ordered
  rw [parts] at ordered onYs
  obtain ⟨first, second, across⟩ := List.pairwise_append.mp ordered
  unfold insertSorted
  rw [made]
  refine ⟨?_, ?_, fun a member => ?_⟩
  · have whole : (front ++ back).Perm xs := parts ▸ stable.perm
    exact List.perm_middle.trans ((whole.cons x).trans (List.perm_append_singleton x xs).symm)
  · refine List.pairwise_append.mpr ⟨first, List.pairwise_cons.mpr ⟨fun b inBack => ?_, second⟩, ?_⟩
    · rw [behind b inBack]
      rfl
    · intro a inFront b rest
      rcases List.mem_cons.mp rest with rfl | inBack
      · exact below a inFront
      · exact across a inFront b inBack
  · have sameClass : (front ++ back).filter (fun b => cmp a b = .eq) =
        xs.filter (fun b => cmp a b = .eq) := by
      rw [← parts]
      refine kept_of_preorder stable (order.subset fun b inside => ?_)
      rcases List.mem_cons.mp inside with rfl | inXs
      · exact member
      · simp [inXs]
    rw [List.filter_append] at sameClass ⊢
    rw [List.filter_append, ← sameClass]
    by_cases tie : cmp a x = .eq
    · have none : back.filter (fun b => cmp a b = .eq) = [] := by
        refine List.filter_eq_nil_iff.mpr fun b inBack same => ?_
        have memB : b ∈ xs ++ [x] := among (parts ▸ by simp [inBack])
        have less := order.lt_of_isLE_of_lt member (by simp) memB (by simp [tie]) (behind b inBack)
        rw [less] at same
        cases of_decide_eq_true same
      simp [none, tie]
    · simp [tie]

theorem foldl_insertSorted_stable (rest : List α) (order : PreorderOn cmp (xs ++ rest))
    (stable : StablySorted cmp xs ys) :
    StablySorted cmp (xs ++ rest) (rest.foldl (insertSorted cmp) ys) := by
  induction rest generalizing xs ys with
  | nil => simpa using stable
  | cons x rest ih =>
    rw [List.append_cons] at order ⊢
    exact ih order (insertSorted_stable (order.subset (List.subset_append_left _ _)) stable)

theorem exists_splitRun_cons (follows : α → α → Bool) (a : α) (xs : List α) :
    ∃ tail, (splitRun follows a xs).1 = a :: tail := by
  cases xs with
  | nil => exact ⟨[], rfl⟩
  | cons b bs =>
    unfold splitRun
    split
    · exact ⟨_, rfl⟩
    · exact ⟨[], rfl⟩

theorem splitRun_pairwise {follows : α → α → Bool} {R : α → α → Prop} {a : α}
    (step : ∀ p ∈ a :: xs, ∀ q ∈ a :: xs, follows p q = true → R p q)
    (trans : ∀ p ∈ a :: xs, ∀ q ∈ a :: xs, ∀ r ∈ a :: xs, R p q → R q r → R p r) :
    (splitRun follows a xs).1.Pairwise R := by
  induction xs generalizing a with
  | nil => exact List.pairwise_singleton R a
  | cons b bs ih =>
    have later : ∀ {c}, c ∈ b :: bs → c ∈ a :: b :: bs := List.mem_cons_of_mem a
    have rest := ih (fun p first q second => step p (later first) q (later second))
      fun p first q second r third => trans p (later first) q (later second) r (later third)
    obtain ⟨tail, run⟩ := exists_splitRun_cons follows b bs
    have within : ∀ c ∈ (splitRun follows b bs).1, c ∈ b :: bs := by
      intro c inRun
      rw [← splitRun_append follows b bs]
      exact List.mem_append_left _ inRun
    unfold splitRun
    split
    · rename_i joins
      have next : R a b := step a List.mem_cons_self b (later List.mem_cons_self) joins
      refine List.pairwise_cons.mpr ⟨fun c inRun => ?_, rest⟩
      have third := later (within c inRun)
      rw [run] at inRun rest
      rcases List.mem_cons.mp inRun with rfl | inTail
      · exact next
      · exact trans a List.mem_cons_self b (later List.mem_cons_self) c third next
          (List.rel_of_pairwise_cons rest inTail)
    · exact List.pairwise_singleton R a

theorem reverse_stable (order : PreorderOn cmp xs)
    (falling : xs.Pairwise fun a b => cmp b a = .lt) : StablySorted cmp xs xs.reverse := by
  refine ⟨List.reverse_perm xs, ?_, fun a member => ?_⟩
  · rw [List.pairwise_reverse]
    exact falling.imp fun less => by simp [less]
  · rw [List.filter_reverse]
    have apart : (xs.filter fun b => cmp a b = .eq).Pairwise fun _ _ => False := by
      refine (falling.filter _).imp_of_mem fun {b c} first second less => ?_
      obtain ⟨inXs, tie⟩ := List.mem_filter.mp first
      obtain ⟨also, tie'⟩ := List.mem_filter.mp second
      have same := order.congr_left member inXs also (of_decide_eq_true tie)
      rw [of_decide_eq_true tie'] at same
      rw [order.swap b inXs c also, ← same] at less
      cases less
    match found : xs.filter (fun b => cmp a b = .eq) with
    | [] => rfl
    | [b] => rfl
    | b :: c :: rest =>
      rw [found] at apart
      exact (List.rel_of_pairwise_cons apart List.mem_cons_self).elim

theorem StablySorted.refl_of_pairwise (ordered : xs.Pairwise fun a b => (cmp a b).isLE = true) :
    StablySorted cmp xs xs := ⟨.refl xs, ordered, fun _ _ => rfl⟩

theorem exists_firstRun_stable (order : PreorderOn cmp xs) :
    ∃ front, front ++ (firstRun cmp xs).2 = xs ∧ StablySorted cmp front (firstRun cmp xs).1 := by
  match xs with
  | [] => exact ⟨[], rfl, StablySorted.refl_of_pairwise .nil⟩
  | [a] => exact ⟨[a], rfl, StablySorted.refl_of_pairwise (List.pairwise_singleton _ a)⟩
  | a :: b :: bs =>
    have within : ∀ follows : α → α → Bool, (splitRun follows a (b :: bs)).1 ⊆ a :: b :: bs := by
      intro follows
      conv => rhs; rw [← splitRun_append follows a (b :: bs)]
      exact List.subset_append_left _ _
    simp only [firstRun]
    split
    · refine ⟨_, splitRun_append _ a (b :: bs), reverse_stable (order.subset (within _)) ?_⟩
      refine splitRun_pairwise (fun p _ q _ less => of_decide_eq_true less) ?_
      intro p first q second r third less next
      exact order.lt_of_lt_of_isLE third second first next (by simp [less])
    · refine ⟨_, splitRun_append _ a (b :: bs), StablySorted.refl_of_pairwise ?_⟩
      refine splitRun_pairwise (fun p first q second notLess => ?_) order.trans
      exact order.isLE_of_ne_lt second first (of_decide_eq_true notLess)

theorem sort_stable (order : PreorderOn cmp xs) : StablySorted cmp xs (sort cmp xs) := by
  obtain ⟨front, whole, stable⟩ := exists_firstRun_stable order
  have sorted := foldl_insertSorted_stable (firstRun cmp xs).2 (by rwa [whole]) stable
  rwa [whole] at sorted

end RunSort

/-- The sort from the first run on. Up to 63 items it is the usual one to the last comparison;
    longer lists are sorted in blocks there, which makes no difference where the comparison is a
    preorder. -/
def Sorter.byRuns : Sorter where
  sort := RunSort.sort
  perm := RunSort.sort_perm
  stable _ _ := RunSort.sort_stable

end PageLayers
